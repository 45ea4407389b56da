import LiveLint.Proofs.Lint.Decoding
import LiveLint.Source.Pool

/-! # Every request is served

A ticket goes one way: it waits, is run on its own document and is settled, or it is taken back
while it waits. What it is settled with is an outcome, whatever the linter does and whatever the
world outside answers. A closed source settles requests at once and runs no linter. -/

namespace LiveLint

/-! ## Linters -/

/-- Linters outside of the program: commands and services. -/
def Linter.IsExternal : Linter → Prop
  | .command _ | .service _ => True
  | .builtIn _ => False

theorem outcomeOf_isKnown {result : Except Fault Outcome} (h : ∀ o, result = .ok o → o.IsKnown) :
    (outcomeOf result).IsKnown := by
  cases result with
  | ok o => exact h o rfl
  | error f => exact trivial

theorem Command.readEnd_isKnown (c : Command) (name : String) (e : ProcessEnd) {o : Outcome}
    (h : c.readEnd name e = .ok o) : o.IsKnown := by
  cases e with
  | finished output errors code =>
    rw [readEnd] at h
    split at h
    · cases h
      exact trivial
    · exact Response.decodeText_known h
  | notFound | timedOut => cases h; exact trivial
  | failed f => cases h

theorem Service.readReply_isKnown (s : Service) (reply : Reply) {o : Outcome}
    (h : s.readReply reply = .ok o) : o.IsKnown := by
  cases reply with
  | body bytes =>
    rw [readReply] at h
    exact Response.decodeText_known h
  | status _ | unreachable _ | timedOut => cases h; exact trivial
  | failed f => cases h

/-- However a linter ends, it comes to an outcome that there is. -/
theorem Linter.run_isKnown {l : Linter} (external : l.IsExternal) (world : World)
    (document : String) : (outcomeOf (l.run world document).2).IsKnown := by
  refine outcomeOf_isKnown fun o h => ?_
  cases l with
  | command c =>
    rw [run] at h
    split at h
    · cases h
      exact trivial
    · exact c.readEnd_isKnown _ _ h
  | service s =>
    rw [run] at h
    split at h
    · cases h
      exact trivial
    split at h
    · cases h
    · exact s.readReply_isKnown _ h
  | builtIn _ => exact external.elim

/-! ## Asking -/

namespace Source

variable {s : Source}

theorem ask_open (h : s.closed = false) (document : Value) :
    s.ask document = .ok (.waiting (Text.unifyBreaks document.displayOrEmpty)) := by
  rw [ask, submit, h]
  rfl

/-- The ticket of a request that comes too late. -/
def late : Ticket := .settled (.ok (Response.failed "cannot schedule new futures after shutdown"))

theorem ask_closed (h : s.closed = true) (document : Value) : s.ask document = .ok late := by
  rw [ask, submit, h]
  rfl

/-- There is a ticket for every request. -/
theorem ask_ok (s : Source) (document : Value) : ∃ t, s.ask document = .ok t := by
  cases h : s.closed with
  | false => exact ⟨_, ask_open h document⟩
  | true => exact ⟨_, ask_closed h document⟩

end Source

namespace Pool

/-- The documents that the linter was run on for a request. -/
def lints (number : Nat) (log : List Event) : List String :=
  log.filterMap fun
    | .lint n document => if n = number then some document else none
    | _ => none

@[simp] theorem lints_nil (number : Nat) : lints number [] = [] := rfl

@[simp] theorem lints_append (number : Nat) (log more : List Event) :
    lints number (log ++ more) = lints number log ++ lints number more := List.filterMap_append

theorem lints_calls (number : Nat) (calls : List Call) : lints number (calls.map .call) = [] :=
  List.filterMap_eq_nil_iff.mpr fun e he => by
    obtain ⟨c, -, rfl⟩ := List.mem_map.mp he
    rfl

/-- The call to the world outside that an event is. -/
def Event.call? : Event → Option Call
  | .call c => some c
  | _ => none

/-! ## One step -/

def Step.isRequest : Step → Bool
  | .request _ => true
  | _ => false

/-- All that a step can do. -/
inductive Does (p : Pool) : Step → Logged Event Pool → Prop where
  | request (document : Value) (ticket : Ticket) (given : p.source.ask document = .ok ticket) :
      Does p (.request document) ⟨{ p with tickets := p.tickets ++ [ticket] }, []⟩
  | start (n : Nat) (document : String) (waiting : p.tickets[n]? = some (.waiting document)) :
      Does p (.start n) ⟨{ p with tickets := p.tickets.set n (.running document) },
        [.lint n document]⟩
  | finish (n : Nat) (document : String) (world : World) (calls : List Call)
      (result : Except Fault Outcome) (running : p.tickets[n]? = some (.running document))
      (ends : p.source.linter.run world document = (calls, result)) :
      Does p (.finish n world)
        ⟨{ p with tickets := p.tickets.set n (.settled (.ok (outcomeOf result))) },
          calls.map .call⟩
  | close : Does p .close
      ⟨{ source := p.source.close, tickets := p.tickets.map Ticket.takeBack }, []⟩
  /-- There is no such ticket, or it is no longer one for this step. -/
  | idle (a : Step) (noRequest : a.isRequest = false) (noClose : a ≠ .close) : Does p a ⟨p, []⟩

theorem step_does (p : Pool) (a : Step) : Does p a (p.step a) := by
  cases a with
  | request document =>
    obtain ⟨ticket, given⟩ := p.source.ask_ok document
    simp only [step, given]
    exact .request document ticket given
  | start n =>
    simp only [step]
    split
    next document waiting => exact .start n document waiting
    next => exact .idle (.start n) rfl (by simp)
  | finish n world =>
    simp only [step]
    split
    next document running => exact .finish n document world _ _ running rfl
    next => exact .idle (.finish n world) rfl (by simp)
  | close => exact .close

/-- All that a step can do to a ticket, with the documents that are linted for it. -/
inductive Turn (l : Linter) : Step → Ticket → List String → Ticket → Prop where
  | rest (a : Step) (t : Ticket) : Turn l a t [] t
  | start (n : Nat) (document : String) :
      Turn l (.start n) (.waiting document) [document] (.running document)
  | finish (n : Nat) (document : String) (world : World) :
      Turn l (.finish n world) (.running document) []
        (.settled (.ok (outcomeOf (l.run world document).2)))
  | takeBack (document : String) : Turn l .close (.waiting document) [] .dropped

/-- Where one ticket takes its turn, the others rest. -/
theorem turn_set {l : Linter} {a : Step} {tickets : List Ticket} {n number : Nat}
    {t u u' : Ticket} {log : List Event} (h : tickets[number]? = some t)
    (found : tickets[n]? = some u) (turn : Turn l a u (lints n log) u')
    (others : ∀ k ≠ n, lints k log = []) :
    ∃ t', (tickets.set n u')[number]? = some t' ∧ Turn l a t (lints number log) t' := by
  by_cases own : number = n
  · subst own
    obtain rfl : u = t := Option.some.inj (found.symm.trans h)
    exact ⟨u', List.getElem?_set_self (List.getElem?_eq_some_iff.mp h).1, turn⟩
  · rw [others number own]
    exact ⟨t, (List.getElem?_set_ne (Ne.symm own)).trans h, .rest a t⟩

theorem lints_other {n k : Nat} (document : String) (h : k ≠ n) :
    lints k [.lint n document] = [] := by
  simp [lints, Ne.symm h]

theorem lints_own (n : Nat) (document : String) : lints n [.lint n document] = [document] := by
  simp [lints]

theorem step_turn (p : Pool) (a : Step) {number : Nat} {t : Ticket}
    (h : p.tickets[number]? = some t) : ∃ t', (p.step a).value.tickets[number]? = some t' ∧
      Turn p.source.linter a t (lints number (p.step a).events) t' := by
  have does := p.step_does a
  generalize p.step a = r at does
  cases does with
  | request document ticket given =>
    exact ⟨t, (List.getElem?_append_left (List.getElem?_eq_some_iff.mp h).1).trans h, .rest _ t⟩
  | start n document waiting =>
    refine turn_set h waiting ?_ fun k other => lints_other document other
    rw [lints_own]
    exact .start n document
  | finish n document world calls result running ends =>
    refine turn_set h running ?_ fun k _ => lints_calls k calls
    have came : (p.source.linter.run world document).2 = result := congrArg Prod.snd ends
    rw [lints_calls, ← came]
    exact .finish n document world
  | close =>
    refine ⟨t.takeBack, (List.getElem?_map ..).trans (congrArg _ h), ?_⟩
    cases t with
    | waiting document => exact .takeBack document
    | running _ | settled _ | dropped => exact .rest .close _
  | idle => exact ⟨t, h, .rest a t⟩

/-! ## Runs -/

def requests (steps : List Step) : Nat := steps.countP Step.isRequest

/-- What steps do besides. -/
structure Framed (p : Pool) (steps : List Step) (r : Logged Event Pool) : Prop where
  linter : r.value.source.linter = p.source.linter
  closed : r.value.source.closed = true ↔ p.source.closed = true ∨ .close ∈ steps
  /-- Each request gets a ticket. -/
  given : r.value.tickets.length = p.tickets.length + requests steps
  quiet : ∀ f, .raised f ∉ r.events
  /-- Nothing is linted for requests to come. -/
  fresh : ∀ number, r.value.tickets.length ≤ number → lints number r.events = []

theorem step_framed (p : Pool) (a : Step) : Framed p [a] (p.step a) := by
  have does := p.step_does a
  generalize p.step a = r at does
  have one : requests [a] = if a.isRequest then 1 else 0 := List.countP_singleton
  cases does with
  | request document ticket given =>
    exact ⟨rfl, by simp, by simp [one, Step.isRequest], by simp, by simp⟩
  | start n document waiting =>
    have inside : n < p.tickets.length := (List.getElem?_eq_some_iff.mp waiting).1
    refine ⟨rfl, by simp, by simp [one, Step.isRequest], by simp, fun number beyond => ?_⟩
    rw [List.length_set] at beyond
    exact lints_other document (by omega)
  | finish n document world calls result running ends =>
    exact ⟨rfl, by simp, by simp [one, Step.isRequest], by simp, fun _ _ => lints_calls _ calls⟩
  | close => exact ⟨rfl, by simp [Source.close], by simp [one, Step.isRequest], by simp, by simp⟩
  | idle a noRequest noClose =>
    exact ⟨rfl, by simp [Ne.symm noClose], by simp [one, noRequest], by simp, by simp⟩

theorem Framed.trans {p : Pool} {xs ys : List Step} {r r' : Logged Event Pool} (h : Framed p xs r)
    (h' : Framed r.value ys r') : Framed p (xs ++ ys) ⟨r'.value, r.events ++ r'.events⟩ where
  linter := h'.linter.trans h.linter
  closed := by rw [h'.closed, h.closed, List.mem_append, or_assoc]
  given := by
    rw [h'.given, h.given, requests, requests, requests, List.countP_append, Nat.add_assoc]
  quiet f found := (List.mem_append.mp found).elim (h.quiet f) (h'.quiet f)
  fresh number beyond := by
    have earlier : r.value.tickets.length ≤ number :=
      Nat.le_trans (by rw [h'.given]; exact Nat.le_add_right _ _) beyond
    rw [lints_append, h.fresh number earlier, h'.fresh number beyond, List.append_nil]

theorem run_nil (p : Pool) : p.run [] = ⟨p, []⟩ := rfl

theorem run_cons (a : Step) (steps : List Step) (p : Pool) :
    p.run (a :: steps) = p.step a >>= run steps := rfl

theorem run_append (steps more : List Step) (p : Pool) :
    p.run (steps ++ more) = p.run steps >>= run more := List.foldlM_append

theorem run_then {p q u : Pool} {a : Step} {steps : List Step} {log more : List Event}
    (first : p.step a = ⟨q, log⟩) (others : q.run steps = ⟨u, more⟩) :
    p.run (a :: steps) = ⟨u, log ++ more⟩ := by
  rw [run_cons, first]
  show (⟨(q.run steps).value, log ++ (q.run steps).events⟩ : Logged Event Pool) = _
  rw [others]

theorem run_framed (steps : List Step) (p : Pool) : Framed p steps (p.run steps) := by
  induction steps generalizing p with
  | nil => exact ⟨rfl, by simp [run], by simp [run, requests], by simp [run], by simp [run]⟩
  | cons a steps ih => exact (p.step_framed a).trans (ih (p.step a).value)

/-- What the turns of a ticket keep is kept by every run. -/
theorem run_kept {I : Ticket → List String → Prop} {p : Pool} {number : Nat} {steps : List Step}
    (kept : ∀ a ∈ steps, ∀ t log, I t log →
      ∀ more t', Turn p.source.linter a t more t' → I t' (log ++ more))
    {t : Ticket} {log : List String} (h : p.tickets[number]? = some t) (holds : I t log) :
    ∃ t', (p.run steps).value.tickets[number]? = some t' ∧
      I t' (log ++ lints number (p.run steps).events) := by
  induction steps generalizing p t log with
  | nil => exact ⟨t, h, by simpa [run] using holds⟩
  | cons a steps ih =>
    obtain ⟨first, others⟩ := List.forall_mem_cons.mp kept
    obtain ⟨u, hu, turn⟩ := p.step_turn a h
    have same := (p.step_framed a).linter
    obtain ⟨t', ht', holds'⟩ := ih (same ▸ others) hu (first t log holds _ u turn)
    refine ⟨t', ht', ?_⟩
    rw [run_cons, Logged.bind_events, lints_append, ← List.append_assoc]
    exact holds'

/-- What holds of a new ticket and is kept by its turns holds of it ever after. -/
theorem request_kept {I : Ticket → List String → Prop} {p : Pool} {before after : List Step}
    {document : Value} {ticket : Ticket}
    (given : (p.run before).value.source.ask document = .ok ticket) (holds : I ticket [])
    (kept : ∀ a ∈ after, ∀ t log, I t log →
      ∀ more t', Turn p.source.linter a t more t' → I t' (log ++ more)) :
    let number := p.tickets.length + requests before
    let r := p.run (before ++ .request document :: after)
    ∃ t, r.value.tickets[number]? = some t ∧ I t (lints number r.events) := by
  intro number r
  have framed := p.run_framed before
  have asked : (p.run before).value.step (.request document) =
      ⟨{ (p.run before).value with tickets := (p.run before).value.tickets ++ [ticket] }, []⟩ := by
    simp only [step, given]
    rfl
  have split : r = p.run before >>= fun q => q.step (.request document) >>= run after :=
    p.run_append before _
  have place : (p.run before).value.tickets.length = number := framed.given
  have new : ((p.run before).value.tickets ++ [ticket])[number]? = some ticket :=
    place ▸ List.getElem?_concat_length
  obtain ⟨t, found, holds⟩ := run_kept
    (p := { (p.run before).value with tickets := (p.run before).value.tickets ++ [ticket] })
    (framed.linter ▸ kept) new holds
  refine ⟨t, ?_, ?_⟩
  · rw [split, Logged.bind_value, asked]
    exact found
  · rw [split, Logged.bind_events, lints_append, framed.fresh number (Nat.le_of_eq place),
      List.nil_append, asked]
    exact holds

/-! ## Tickets of an open source -/

/-- How far a request for a document can have come with the steps after it, and what was linted
for it so far. It is settled with what the linter comes to on the document, and taken back only
when the source is closed. -/
inductive Served (l : Linter) (document : String) (after : List Step) :
    Ticket → List String → Prop where
  | waiting : Served l document after (.waiting document) []
  | running : Served l document after (.running document) [document]
  | settled (world : World) :
      Served l document after (.settled (.ok (outcomeOf (l.run world document).2))) [document]
  | dropped (closed : .close ∈ after) : Served l document after .dropped []

theorem Served.turn {l : Linter} {a : Step} {document : String} {after : List Step}
    {t t' : Ticket} {log more : List String} (ha : a ∈ after) (h : Served l document after t log)
    (turn : Turn l a t more t') : Served l document after t' (log ++ more) := by
  cases turn with
  | rest => rwa [List.append_nil]
  | start => cases h; exact .running
  | finish _ _ world => cases h; exact .settled world
  | takeBack => cases h; exact .dropped ha

/-- A ticket is settled with an outcome that there is. -/
theorem Served.result_known {l : Linter} (external : l.IsExternal) {document : String}
    {after : List Step} {log : List String} {result : Except Fault Outcome}
    (h : Served l document after (.settled result) log) : ∃ o, result = .ok o ∧ o.IsKnown := by
  cases h with
  | settled world => exact ⟨_, rfl, l.run_isKnown external world document⟩

/-- Nothing becomes of a ticket that was given too late. -/
theorem late_turn {l : Linter} {a : Step} {t t' : Ticket} {log more : List String}
    (h : t = Source.late ∧ log = []) (turn : Turn l a t more t') :
    t' = Source.late ∧ log ++ more = [] := by
  obtain ⟨late, none⟩ := h
  cases turn with
  | rest => exact ⟨late, by rw [none, List.append_nil]⟩
  | start | finish | takeBack => cases late

section

variable {p : Pool} {number : Nat} {document : String}

theorem started (h : p.tickets[number]? = some (.waiting document) ∨
    p.tickets[number]? = some (.running document)) :
    (p.step (.start number)).value.tickets[number]? = some (.running document) := by
  unfold step
  rcases h with waiting | running
  · simp only [waiting]
    exact List.getElem?_set_self (List.getElem?_eq_some_iff.mp waiting).1
  · simp only [running]
    exact running

theorem finished (h : p.tickets[number]? = some (.running document)) (world : World) :
    (p.step (.finish number world)).value.tickets[number]? =
      some (.settled (.ok (outcomeOf (p.source.linter.run world document).2))) := by
  simp only [step, h]
  exact List.getElem?_set_self (List.getElem?_eq_some_iff.mp h).1

/-- A request that is worked on is settled. -/
theorem worked_settled (external : p.source.linter.IsExternal)
    (h : p.tickets[number]? = some (.waiting document) ∨
      p.tickets[number]? = some (.running document)) (world : World) :
    ∃ o : Outcome, o.IsKnown ∧
      (p.run [.start number, .finish number world]).value.tickets[number]? =
        some (.settled (.ok o)) := by
  refine ⟨_, p.source.linter.run_isKnown external world document, ?_⟩
  rw [← (p.step_framed (.start number)).linter]
  exact finished (started h) world

end

/-- **Every request is served.** Whatever is asked of a source and however its workers and the
world outside go on, no request is a fault, and each that is settled is settled with an outcome.
Once the source was closed, a request has failed at once and nothing is linted for it. Before,
its linter is run on the document with its line breaks unified, once at most, and only closing
the source takes it back; a request that waits or is run is settled as soon as a worker is there
and the world answers. -/
theorem requests_served {linter : Linter} (external : linter.IsExternal) (before after : List Step)
    (v : Value) :
    let number := requests before
    let r := run (before ++ .request v :: after) { source := { linter } }
    (∀ f, .raised f ∉ r.events) ∧
    ∃ ticket, r.value.tickets[number]? = some ticket ∧
      (∀ result, ticket = .settled result → ∃ o, result = .ok o ∧ o.IsKnown) ∧
      (.close ∈ before →
        ticket = .settled (.ok (Response.failed "cannot schedule new futures after shutdown")) ∧
        lints number r.events = []) ∧
      (.close ∉ before →
        Served linter (Text.unifyBreaks v.displayOrEmpty) after ticket (lints number r.events)) ∧
      ∀ document, ticket = .waiting document ∨ ticket = .running document → ∀ world,
        ∃ o : Outcome, o.IsKnown ∧
          (r.value.run [.start number, .finish number world]).value.tickets[number]? =
            some (.settled (.ok o)) := by
  intro number r
  have framed := run_framed (before ++ .request v :: after) { source := { linter } }
  have start := run_framed before { source := { linter } }
  have first : ([] : List Ticket).length + requests before = number := Nat.zero_add _
  have worked {t : Ticket} (found : r.value.tickets[number]? = some t) (document : String)
      (unsettled : t = .waiting document ∨ t = .running document) (world : World) :=
    worked_settled (framed.linter ▸ external) (unsettled.imp (· ▸ found) (· ▸ found)) world
  refine ⟨framed.quiet, ?_⟩
  by_cases closed : .close ∈ before
  · have given := Source.ask_closed (start.closed.mpr (.inr closed)) v
    obtain ⟨ticket, found, late, none⟩ := request_kept
      (I := fun t log => t = Source.late ∧ log = []) given ⟨rfl, rfl⟩
      (fun _ _ _ _ h _ _ turn => late_turn h turn)
    rw [first] at found none
    refine ⟨ticket, found, fun result settled => ?_, fun _ => ⟨late, none⟩,
      fun isOpen => absurd closed isOpen, worked found⟩
    exact ⟨_, (Ticket.settled.inj (late.symm.trans settled)).symm, trivial⟩
  · have isOpen : (run before { source := { linter } }).value.source.closed = false := by
      rw [Bool.eq_false_iff, ne_eq, start.closed]
      simp [closed]
    obtain ⟨ticket, found, served⟩ := request_kept (Source.ask_open isOpen v)
      Served.waiting (fun a ha _ _ h _ _ turn => h.turn ha turn)
    rw [first] at found served
    refine ⟨ticket, found, fun result settled => ?_, fun h => absurd h closed, fun _ => served,
      worked found⟩
    exact (settled ▸ served).result_known external

/-- A worker that has begun goes on when the source is closed. A request after that has failed. -/
theorem requests_served_across_close :
    let linter : Linter := .command { argv := ["lint"], timeout := .zero }
    let world : World := { process := .notFound, reply := .timedOut }
    let steps : List Step := [.start 0, .close, .finish 0 world]
    let r := run ([] ++ .request (.text "a\r\nb") :: (steps ++ [.request (.text "c")]))
      { source := { linter } }
    (linter.IsExternal ∧ .close ∈ .request (.text "a\r\nb") :: steps) ∧
      (∃ ticket, r.value.tickets[0]? = some ticket ∧
        Served linter "a\nb" (steps ++ [.request (.text "c")]) ticket (lints 0 r.events)) ∧
      r.value.tickets[1]? = some Source.late ∧ lints 1 r.events = [] := by
  intro linter world steps r
  have external : linter.IsExternal := trivial
  have closed : .close ∈ .request (.text "a\r\nb") :: steps := by simp [steps]
  obtain ⟨-, first, found, -, -, served, -⟩ :=
    requests_served external [] (steps ++ [.request (.text "c")]) (.text "a\r\nb")
  obtain ⟨-, second, found', -, late, -, -⟩ :=
    requests_served external (.request (.text "a\r\nb") :: steps) [] (.text "c")
  obtain ⟨rfl, none⟩ := late closed
  exact ⟨⟨external, closed⟩, ⟨first, found, served (by simp)⟩, found', none⟩

/-- Asking a source is asking its workers and waiting for them. -/
theorem request_eq_run (s : Source) (world : World) (v : Value) :
    let r := run [.request v, .start 0, .finish 0 world] { source := s }
    r.value.tickets = [.settled (.ok (s.request world v).2)] ∧
      r.events.filterMap Event.call? = (s.request world v).1 := by
  dsimp only
  cases h : s.closed with
  | true =>
    have closed : run [.request v, .start 0, .finish 0 world] { source := s } =
        ⟨{ source := s, tickets := [Source.late] }, []⟩ := by
      simp only [run_cons, step, Source.ask_closed h]
      rfl
    rw [closed, Source.request, h]
    exact ⟨rfl, rfl⟩
  | false =>
    have asked := Source.ask_open h v
    rw [Source.request, h]
    generalize Text.unifyBreaks v.displayOrEmpty = document at asked ⊢
    rcases ends : s.linter.run world document with ⟨calls, result⟩
    have worked : run [.request v, .start 0, .finish 0 world] { source := s } =
        ⟨{ source := s, tickets := [.settled (.ok (outcomeOf result))] },
          .lint 0 document :: calls.map .call⟩ := by
      have given : step (.request v) { source := s } =
          ⟨{ source := s, tickets := [.waiting document] }, []⟩ := by
        simp only [step, asked]
        rfl
      have begun : step (.start 0) { source := s, tickets := [.waiting document] } =
          ⟨{ source := s, tickets := [.running document] }, [.lint 0 document]⟩ := rfl
      have settled : step (.finish 0 world) { source := s, tickets := [.running document] } =
          ⟨{ source := s, tickets := [.settled (.ok (outcomeOf result))] },
            calls.map .call⟩ := by
        simp [step, ends, Source.guarded]
      rw [run_then given (run_then begun (run_then settled (run_nil _))), List.append_nil]
      rfl
    rw [worked]
    refine ⟨rfl, ?_⟩
    show (calls.map Event.call).filterMap Event.call? = calls
    rw [List.filterMap_map]
    exact List.filterMap_some

end Pool
end LiveLint
