import LiveLint.Lint.Explanation
import LiveLint.Proofs.Json.WellFormed
import LiveLint.Proofs.Lint.WrittenForm
import LiveLint.Proofs.Text.Encoding
import Mathlib.Data.List.Induction

/-! # Examples are found by their kind

A table puts each example at the end of the bucket of its kind. So what is found under a kind is all
examples of that kind in their order, and the buckets together hold every example once. Kinds are
brought into one form where examples are read, where findings are decoded and where a kind is looked
up. Doing it again changes nothing, so a finding finds the examples of its kind. -/

namespace LiveLint

/-- Picking out by each of some keys in turn only reorders, if every element has one of them. -/
theorem flatMap_filter_perm {α κ : Type} [DecidableEq κ] (key : α → κ) {keys : List κ}
    (distinct : keys.Nodup) {xs : List α} (covered : ∀ x ∈ xs, key x ∈ keys) :
    (keys.flatMap fun k => xs.filter (key · = k)).Perm xs := by
  induction keys generalizing xs with
  | nil =>
    obtain rfl : xs = [] := List.eq_nil_iff_forall_not_mem.mpr fun x hx =>
      List.not_mem_nil (covered x hx)
    exact .nil
  | cons k keys ih =>
    obtain ⟨fresh, distinct⟩ := List.nodup_cons.mp distinct
    have others : keys.flatMap (fun l => xs.filter (key · = l)) =
        keys.flatMap fun l => (xs.filter (!key · = k)).filter (key · = l) := by
      refine List.flatMap_congr fun l hl => ?_
      rw [List.filter_filter]
      refine List.filter_congr fun x _ => ?_
      have apart : l ≠ k := fun same => fresh (same ▸ hl)
      by_cases same : key x = l
      · simp [same, apart]
      · simp [same]
    have covered' : ∀ x ∈ xs.filter (!key · = k), key x ∈ keys := by
      intro x hx
      obtain ⟨member, other⟩ := List.mem_filter.mp hx
      exact List.mem_of_ne_of_mem (by simpa using other) (covered x member)
    rw [List.flatMap_cons, others]
    exact ((ih distinct covered').append_left _).trans (List.filter_append_perm _ xs)

namespace ExampleTable

/-! ## Buckets -/

/-- The first bucket of a kind. -/
def bucket (k : String) (buckets : List (String × List Example)) : List Example :=
  ((buckets.find? (·.1 == k)).map (·.2)).getD []

theorem bucket_cons (k : String) (b : String × List Example)
    (rest : List (String × List Example)) :
    bucket k (b :: rest) = if b.1 = k then b.2 else bucket k rest := by
  rw [bucket, List.find?_cons]
  split
  next same => rw [if_pos (eq_of_beq same)]; rfl
  next other => rw [if_neg (beq_eq_false_iff_ne.mp other)]; rfl

variable (e : Example) (buckets : List (String × List Example))

theorem bucket_addTo (k : String) :
    bucket k (addTo e buckets) = bucket k buckets ++ if e.kind = k then [e] else [] := by
  induction buckets with
  | nil => rw [addTo, bucket_cons]; rfl
  | cons b rest ih =>
    rw [addTo]
    split
    next own =>
      rw [bucket_cons, bucket_cons, own]
      split
      · rfl
      · rw [List.append_nil]
    next other =>
      rw [bucket_cons, bucket_cons, ih]
      split
      next here => rw [if_neg fun same => other (here.trans same.symm), List.append_nil]
      next => rfl

theorem keys_addTo :
    (addTo e buckets).map (·.1) =
      if e.kind ∈ buckets.map (·.1) then buckets.map (·.1)
      else buckets.map (·.1) ++ [e.kind] := by
  induction buckets with
  | nil => rfl
  | cons b rest ih =>
    rw [addTo]
    split
    next own =>
      rw [List.map_cons, List.map_cons, if_pos (own ▸ List.mem_cons_self)]
    next other =>
      have elsewhere : e.kind ∈ b.1 :: rest.map (·.1) ↔ e.kind ∈ rest.map (·.1) := by
        rw [List.mem_cons, or_iff_right (Ne.symm other)]
      rw [List.map_cons, List.map_cons, ih]
      simp only [elsewhere]
      split <;> rfl

theorem length_addTo :
    ((addTo e buckets).flatMap (·.2)).length = (buckets.flatMap (·.2)).length + 1 := by
  induction buckets with
  | nil => rfl
  | cons b rest ih =>
    rw [addTo]
    split
    · simp only [List.flatMap_cons, List.length_append, List.length_singleton]
      omega
    · simp only [List.flatMap_cons, List.length_append, ih]
      omega

/-! ## Tables -/

variable (examples : List Example)

theorem buckets_concat :
    (ofList (examples ++ [e])).buckets = addTo e (ofList examples).buckets :=
  List.foldl_concat ..

theorem bucket_ofList (k : String) :
    bucket k (ofList examples).buckets = examples.filter (·.kind = k) := by
  induction examples using List.reverseRecOn with
  | nil => rfl
  | append_singleton examples e ih =>
    rw [buckets_concat, bucket_addTo, ih, List.filter_append]
    by_cases own : e.kind = k <;> simp [own]

theorem size_ofList : (ofList examples).size = examples.length := by
  induction examples using List.reverseRecOn with
  | nil => rfl
  | append_singleton examples e ih =>
    rw [size, buckets_concat, length_addTo, List.length_append, ← ih]
    rfl

theorem keys_ofList :
    ((ofList examples).buckets.map (·.1)).Nodup ∧
      ∀ k, k ∈ (ofList examples).buckets.map (·.1) ↔ k ∈ examples.map (·.kind) := by
  induction examples using List.reverseRecOn with
  | nil => exact ⟨.nil, fun k => Iff.rfl⟩
  | append_singleton examples e ih =>
    obtain ⟨distinct, kinds⟩ := ih
    rw [buckets_concat, keys_addTo, List.map_append]
    split
    next known =>
      refine ⟨distinct, fun k => ?_⟩
      rw [List.mem_append, kinds]
      refine (or_iff_left_of_imp fun own => ?_).symm
      rw [List.mem_singleton.mp own]
      exact (kinds _).mp known
    next new =>
      refine ⟨?_, fun k => ?_⟩
      · refine distinct.append (List.nodup_singleton _) ?_
        exact List.disjoint_singleton.mpr new
      · rw [List.mem_append, List.mem_append, kinds]
        rfl

theorem insertKind_perm (k : String) (kinds : List String) :
    (insertKind k kinds).Perm (k :: kinds) := by
  induction kinds with
  | nil => exact .refl _
  | cons l rest ih =>
    rw [insertKind]
    split
    · exact .refl _
    · exact (ih.cons l).trans (.swap k l rest)

theorem kinds_perm (t : ExampleTable) : t.kinds.Perm (t.buckets.map (·.1)) := by
  rw [kinds]
  induction t.buckets with
  | nil => exact .nil
  | cons b rest ih => exact (insertKind_perm b.1 _).trans (ih.cons b.1)

theorem kinds_ofList :
    (ofList examples).kinds.Nodup ∧
      ∀ k, k ∈ (ofList examples).kinds ↔ k ∈ examples.map (·.kind) := by
  obtain ⟨distinct, kinds⟩ := keys_ofList examples
  have order := kinds_perm (ofList examples)
  exact ⟨order.nodup_iff.mpr distinct, fun k => order.mem_iff.trans (kinds k)⟩

end ExampleTable

/-! ## Entries of files -/

namespace Example

/-- The examples of a kind, in the order of the entries. -/
def ofKind (kind : String) (entries : List Value) : List Example :=
  (entries.filter fun raw => kindName (raw.field "kind") = kind).filterMap ofValue?

variable {raw : Value} {e : Example}

theorem kind_of_ofValue? (h : ofValue? raw = some e) :
    e.kind = kindName (raw.field "kind") ∧ e.kind ≠ "" := by
  unfold ofValue? at h
  dsimp only at h
  split at h
  next => cases h
  next filled =>
    obtain rfl := Option.some.inj h
    exact ⟨rfl, fun blank => filled (String.isEmpty_iff.mpr blank)⟩

/-- An example of some kind, in the form in which kinds are compared. -/
structure IsNormal (e : Example) : Prop where
  kind : Text.lower (Text.trim e.kind) = e.kind
  filled : e.kind ≠ ""

theorem isNormal_of_ofValue? (h : ofValue? raw = some e) : e.IsNormal where
  kind := by
    rw [(kind_of_ofValue? h).1]
    exact Response.lower_trim_kindName (raw.field "kind")
  filled := (kind_of_ofValue? h).2

/-- Picking entries by their kind is picking their examples by theirs. -/
theorem filter_kind (kind : String) (entries : List Value) :
    (entries.filterMap ofValue?).filter (·.kind = kind) = ofKind kind entries := by
  rw [ofKind, List.filter_filterMap, List.filterMap_filter]
  refine List.filterMap_congr fun raw _ => ?_
  cases h : ofValue? raw with
  | none => rw [ite_self]; rfl
  | some e =>
    rw [Option.filter_some, (kind_of_ofValue? h).1]

theorem ofKind_blank (entries : List Value) : ofKind "" entries = [] := by
  rw [← filter_kind, List.filter_eq_nil_iff]
  intro e he
  obtain ⟨raw, -, read⟩ := List.mem_filterMap.mp he
  simpa using (kind_of_ofValue? read).2

end Example

namespace ExampleTable

/-! ## Tables of entries -/

/-- The table finds the examples of some entries: by any spelling of their kind, each under one
kind only, and for a finding those of its own kind. -/
structure Finds (t : ExampleTable) (entries : List Value) : Prop where
  lookup : ∀ kind, t.lookup (.text kind) = Example.ofKind (Text.lower (Text.trim kind)) entries
  blank : ∀ kind, Text.trim kind = "" → t.lookup (.text kind) = []
  distinct : t.kinds.Nodup
  named : ∀ kind ∈ t.kinds, Text.trim kind ≠ ""
  parts : (t.kinds.flatMap fun kind => t.lookup (.text kind)).Perm
    (entries.filterMap Example.ofValue?)
  own : ∀ kind ∈ t.kinds, ∀ e ∈ t.lookup (.text kind), e.kind = kind
  size : (t.kinds.map fun kind => (t.lookup (.text kind)).length).sum = t.size
  finding : ∀ raw a, Response.decodeFinding raw = .ok (some a) →
    examplesFor (some t.toLookup) a.kind = Example.ofKind (kindName (raw.field "kind")) entries

theorem lookup_ofList (examples : List Example) (kind : String) :
    (ofList examples).lookup (.text kind) =
      examples.filter (·.kind = Text.lower (Text.trim kind)) := by
  show bucket (kindName (.text kind)) (ofList examples).buckets = _
  rw [bucket_ofList, kindName, Value.displayOrEmpty_text]

section

variable {examples : List Example} (normal : ∀ e ∈ examples, e.IsNormal)
include normal

theorem normal_of_mem_kinds {kind : String} (h : kind ∈ (ofList examples).kinds) :
    Text.lower (Text.trim kind) = kind ∧ Text.trim kind ≠ "" := by
  obtain ⟨e, member, rfl⟩ := List.mem_map.mp (((kinds_ofList examples).2 kind).mp h)
  obtain ⟨same, filled⟩ := normal e member
  refine ⟨same, fun empty => ?_⟩
  rw [empty] at same
  exact filled same.symm

theorem lookup_of_mem_kinds {kind : String} (h : kind ∈ (ofList examples).kinds) :
    (ofList examples).lookup (.text kind) = examples.filter (·.kind = kind) := by
  rw [lookup_ofList, (normal_of_mem_kinds normal h).1]

theorem flatMap_lookup_perm :
    ((ofList examples).kinds.flatMap fun kind => (ofList examples).lookup (.text kind)).Perm
      examples := by
  obtain ⟨distinct, kinds⟩ := kinds_ofList examples
  rw [List.flatMap_congr fun kind => lookup_of_mem_kinds normal]
  exact flatMap_filter_perm Example.kind distinct fun e member =>
    (kinds e.kind).mpr (List.mem_map_of_mem member)

end

theorem lookup_entries (entries : List Value) (kind : String) :
    (ofList (entries.filterMap Example.ofValue?)).lookup (.text kind) =
      Example.ofKind (Text.lower (Text.trim kind)) entries := by
  rw [lookup_ofList, Example.filter_kind]

theorem finds_ofList (entries : List Value) :
    (ofList (entries.filterMap Example.ofValue?)).Finds entries := by
  have normal : ∀ e ∈ entries.filterMap Example.ofValue?, e.IsNormal := by
    intro e member
    obtain ⟨raw, -, read⟩ := List.mem_filterMap.mp member
    exact Example.isNormal_of_ofValue? read
  have parts := flatMap_lookup_perm normal
  exact {
    lookup := lookup_entries entries
    blank := by
      intro kind empty
      rw [lookup_entries, empty]
      exact Example.ofKind_blank entries
    distinct := (kinds_ofList _).1
    named := fun kind member => (normal_of_mem_kinds normal member).2
    parts := parts
    own := by
      intro kind member e found
      rw [lookup_of_mem_kinds normal member] at found
      exact of_decide_eq_true (List.mem_filter.mp found).2
    size := by rw [size_ofList, ← parts.length_eq, List.length_flatMap]
    finding := by
      intro raw a decoded
      obtain ⟨range, rfl⟩ := Response.exists_describe decoded
      rw [Finding.normalize_kind, Response.describe_kind, examplesFor]
      split
      next unkinded => rw [String.isEmpty_iff.mp unkinded, Example.ofKind_blank]
      next =>
        show (ofList _).lookup (.text (kindName (raw.field "kind"))) = _
        rw [lookup_entries, Response.lower_trim_kindName] }

/-! ## Files -/

/-- The text of a file, if there is a file and it holds text. -/
def fileText? (content : Option (List UInt8)) : Option String := do
  let s ← (Text.decodeUtf8 (← content)).toOption
  some (Text.unifyNewlines s)

/-- The file is text with more levels of lists and dictionaries than can be read. -/
def NestsTooDeep (content : Option (List UInt8)) (during : Descent) : Prop :=
  ∃ s, fileText? content = some s ∧ Json.read s = .error (.tooDeep during)

/-- The items of the list in a file: none if it cannot be read or holds no list. -/
def entriesOf (content : Option (List UInt8)) : List Value :=
  match (fileText? content).bind fun s => (Json.read s).toOption with
  | some (.list items) => items
  | _ => []

theorem fileText?_encodeUtf8 (s : String) :
    fileText? (some (Text.encodeUtf8 s)) = some (Text.unifyNewlines s) := by
  show ((Text.decodeUtf8 (Text.encodeUtf8 s)).toOption >>= _) = _
  rw [Text.decodeUtf8_encodeUtf8]
  rfl

theorem ofFile_unread {content : Option (List UInt8)} (h : fileText? content = none) :
    ofFile content = .ok {} := by
  cases content with
  | none => rfl
  | some bytes =>
    rw [ofFile]
    cases decoded : Text.decodeUtf8 bytes with
    | error e => rfl
    | ok s => simp [fileText?, decoded, Except.toOption] at h

theorem ofFile_read {content : Option (List UInt8)} {s : String} (h : fileText? content = some s) :
    ofFile content = match Json.read s with
      | .error (.tooDeep during) => .error (.tooDeep during)
      | .error _ => .ok {}
      | .ok v => .ok (ofList (Example.listOfValue v)) := by
  cases content with
  | none => cases h
  | some bytes =>
    rw [ofFile]
    cases decoded : Text.decodeUtf8 bytes with
    | error e => simp [fileText?, decoded, Except.toOption] at h
    | ok _ =>
      obtain rfl : Text.unifyNewlines _ = s := by
        simpa [fileText?, decoded, Except.toOption] using h
      rfl

theorem ofFile_tooDeep {content : Option (List UInt8)} {during : Descent}
    (h : NestsTooDeep content during) : ofFile content = .error (.tooDeep during) := by
  obtain ⟨s, text, read⟩ := h
  rw [ofFile_read text, read]

theorem ofFile_ok {content : Option (List UInt8)} (h : ∀ during, ¬ NestsTooDeep content during) :
    ofFile content = .ok (ofList ((entriesOf content).filterMap Example.ofValue?)) := by
  cases text : fileText? content with
  | none => rw [ofFile_unread text, entriesOf, text]; rfl
  | some s =>
    rw [ofFile_read text, entriesOf, text, Option.bind_some]
    cases read : Json.read s with
    | error e =>
      cases e with
      | tooDeep during => exact absurd ⟨s, text, read⟩ (h during)
      | «at» reason line column offset => rfl
      | tooLong digits => rfl
    | ok v => cases v <;> rfl

/-- **Examples are found by their kind.** Of every file there is a table that finds the examples
of its entries, unless what it holds goes too deep. -/
theorem found_by_kind (content : Option (List UInt8)) :
    (∀ f, ofFile content = .error f ↔
      ∃ during, NestsTooDeep content during ∧ f = .tooDeep during) ∧
    ((∀ during, ¬ NestsTooDeep content during) →
      ∃ t, ofFile content = .ok t ∧ t.Finds (entriesOf content)) := by
  refine ⟨fun f => ⟨?_, ?_⟩, fun shallow => ⟨_, ofFile_ok shallow, finds_ofList _⟩⟩
  · intro fault
    by_contra other
    have shallow : ∀ during, ¬ NestsTooDeep content during := by
      intro during deep
      rw [ofFile_tooDeep deep] at fault
      exact other ⟨during, deep, (Except.error.inj fault).symm⟩
    rw [ofFile_ok shallow] at fault
    cases fault
  · intro tooDeep
    obtain ⟨during, deep, rfl⟩ := tooDeep
    exact ofFile_tooDeep deep

/-- Kinds that end in a capital sigma, an item that is no object and a kind of blanks. -/
theorem found_by_kind_sigma :
    let entries := [
      Value.dict [("kind", .text " ΑΣ"), ("bad", .text "x")], .null,
      .dict [("kind", .text "  ")], .dict [("kind", .text "b")],
      .dict [("kind", .text "ας\t"), ("good", .text "y")]]
    let text := "[\x7b\"kind\":\" ΑΣ\",\"bad\":\"x\"\x7d,null,\x7b\"kind\":\"  \"\x7d," ++
      "\x7b\"kind\":\"b\"\x7d,\x7b\"kind\":\"ας\\t\",\"good\":\"y\"\x7d]"
    let content := some (Text.encodeUtf8 text)
    let raw := Value.dict [("position", .dict []), ("kind", .text "ΑΣ\n")]
    let a : Finding := ⟨.point ⟨1, 1⟩, .warning, "Lint issue", "", "", "ας"⟩
    ((∀ during, ¬ NestsTooDeep content during) ∧ entriesOf content = entries ∧
        Response.decodeFinding raw = .ok (some a)) ∧
      ∃ t, ofFile content = .ok t ∧ t.Finds entries ∧ examplesFor (some t.toLookup) a.kind =
        [⟨"ας", "", "x", "", "", ""⟩, ⟨"ας", "", "", "", "y", ""⟩] := by
  intro entries text content raw a
  have oneLine : '\r' ∉ text.toList := by decide
  have document : Json.readDocument text.toList = .ok (.list entries) := by
    simp only [text, entries]
    cbv
  have read : Json.read text = .ok (.list entries) := by
    rw [Json.read, document]
    rfl
  have holds : fileText? content = some text := by
    rw [fileText?_encodeUtf8, Text.unifyNewlines_eq_self oneLine]
  have listed : entriesOf content = entries := by
    rw [entriesOf, holds, Option.bind_some, read]
    rfl
  have shallow : ∀ during, ¬ NestsTooDeep content during := by
    intro during tooDeep
    obtain ⟨s, same, deep⟩ := tooDeep
    obtain rfl := Option.some.inj (holds.symm.trans same)
    rw [read] at deep
    cases deep
  have decoded : Response.decodeFinding raw = .ok (some a) := by
    rw [← Response.finding?_eq_some]
    decide +kernel
  obtain ⟨t, table, finds⟩ := (found_by_kind content).2 shallow
  rw [listed] at finds
  refine ⟨⟨shallow, listed, decoded⟩, t, table, finds, ?_⟩
  rw [finds.finding raw a decoded]
  decide +kernel

/-- A file of lists in one another, one more than can be read, is a fault. -/
theorem nested_file_faults :
    ofFile (some (Text.encodeUtf8 (String.ofList
      (List.replicate 989 '[' ++ List.replicate 989 ']')))) = .error (.tooDeep .readingList) := by
  refine ofFile_tooDeep ⟨_, fileText?_encodeUtf8 _, ?_⟩
  rw [Text.unifyNewlines_eq_self]
  · exact Json.read_brackets _
  · rw [String.toList_ofList, List.mem_append, List.mem_replicate, List.mem_replicate]
    decide

end ExampleTable

end LiveLint
