import LiveLint.Proofs.Lint.WrittenForm
import LiveLint.Proofs.Text.Form
import LiveLint.Proofs.Text.LineBreak
import LiveLint.Source

/-! # The document that a linter gets

A linter is not run on the document itself, but on its text with the line breaks unified. So a
finding in a line of what the linter got is a finding in that line of the document. A service gets
this text as a form, from which it reads the very same text, whatever characters are in it. -/

namespace LiveLint

open Text

theorem Source.request_text {s : Source} (h : s.closed = false) (world : World) (text : String) :
    s.request world (.text text) =
      ((s.linter.run world (unifyBreaks text)).1,
        outcomeOf (s.linter.run world (unifyBreaks text)).2) := by
  rw [request, h, Value.displayOrEmpty_text]
  rfl

/-- **Unified line breaks keep the lines.** Lines without line breaks in them, each but the last
ended by LF, CR LF or LF CR, are the lines that the linter gets, joined with LF. Of every text at
all, no CR is left, all characters but the line breaks stay in their order, and there is nothing
to unify any more. -/
theorem unifyBreaks_keeps_lines :
    (∀ (ended : List (String × LineBreak)) (last : String),
      (∀ l ∈ linesOf ended last, Unbroken l) →
        let document := joinLines ended last
        let unified := "\n".intercalate (linesOf ended last)
        unifyBreaks document = unified ∧ documentLines unified = linesOf ended last ∧
          ∀ (s : Source) (world : World), s.closed = false →
            s.request world (.text document) =
              ((s.linter.run world unified).1, outcomeOf (s.linter.run world unified).2)) ∧
    ∀ text : String,
      '\r' ∉ (unifyBreaks text).toList ∧
      (unifyBreaks text).toList.filter isInLine = text.toList.filter isInLine ∧
      unifyBreaks (unifyBreaks text) = unifyBreaks text := by
  constructor
  · intro ended last unbroken document unified
    have same : unifyBreaks document = unified := unifyBreaks_joinLines unbroken
    have lines : documentLines unified = linesOf ended last :=
      documentLines_intercalate (by simp [linesOf]) fun l hl => (unbroken l hl).2
    exact ⟨same, lines, fun s world h => same ▸ Source.request_text h world document⟩
  · intro text
    have cr := cr_not_mem_unifyBreaks text
    exact ⟨cr, unifyBreaks_inLine text, unifyBreaks_eq_self_iff.mpr cr⟩

/-- The LF of the first line is paired with the CR of the empty line behind it. -/
theorem unifyBreaks_keeps_lines_across_empty_line :
    let ended : List (String × LineBreak) := [("a", .lf), ("", .crLf), ("b", .lfCr)]
    let s : Source := { linter := .command { argv := ["lint"], timeout := .zero } }
    let world : World := { process := .notFound, reply := .timedOut }
    ((∀ l ∈ linesOf ended "c", Unbroken l) ∧ s.closed = false) ∧
      joinLines ended "c" = "a\n\r\nb\n\rc" ∧
      unifyBreaks "a\n\r\nb\n\rc" = "a\n\nb\nc" ∧
      documentLines "a\n\nb\nc" = ["a", "", "b", "c"] ∧
      (s.request world (.text "a\n\r\nb\n\rc")).1 = [.run ["lint"] "a\n\nb\nc" .zero] := by
  intro ended s world
  have unbroken : ∀ l ∈ linesOf ended "c", Unbroken l := by decide
  have joined : joinLines ended "c" = "a\n\r\nb\n\rc" := by decide
  obtain ⟨unified, lines, asked⟩ := unifyBreaks_keeps_lines.1 ended "c" unbroken
  rw [joined] at unified asked
  refine ⟨⟨unbroken, rfl⟩, joined, unified, lines, ?_⟩
  rw [asked s world rfl]
  rfl

/-! ## Services -/

/-- The form is in ASCII, and the document is its only field. -/
structure Carries (form document : String) : Prop where
  ascii : ∀ c ∈ form.toList, isAscii c = true
  fields : formFields? form = some [("source", document)]

theorem Service.form_carries (document : String) : Carries (Service.form document) document := by
  have named : formEncode "source" = "source" := by decide
  have form : Service.form document = oneField "source" document := by
    rw [Service.form, oneField, named]
    rfl
  rw [form]
  exact ⟨fun _ => isAscii_of_mem_oneField, formFields?_oneField "source" document⟩

theorem Linter.mem_run_service {service : Service} {world : World} {document : String} {c : Call}
    (h : c ∈ ((Linter.service service).run world document).1) :
    ∃ url, c = .post url (Service.form document) service.timeout := by
  rw [Linter.run] at h
  split at h
  · cases h
  split at h
  · cases h
  next url _ => exact ⟨url, List.mem_singleton.mp h⟩

theorem Linter.run_service {service : Service} (named : service.url ≠ "") {url : String}
    (address : WebAddress.read service.url = .ok url) (world : World) (document : String) :
    ((Linter.service service).run world document).1 =
      [.post url (Service.form document) service.timeout] := by
  have filled : service.url.isEmpty = false := by simpa using named
  simp only [Linter.run, filled, address]
  rfl

/-- **The document is posted unchanged.** Whatever is posted when a service is asked to lint a
document is a form in ASCII with a single field, and what is read from that field is the text of
the document with its line breaks unified. While the source is open, a service with a proper
address is asked with exactly one such form. -/
theorem posted_form_carries_document (service : Service) (closed : Bool) (world : World)
    (text : String) :
    let s : Source := { linter := .service service, closed }
    (∀ url form timeout, .post url form timeout ∈ (s.request world (.text text)).1 →
      Carries form (unifyBreaks text)) ∧
    (closed = false → service.url ≠ "" → ∀ url, WebAddress.read service.url = .ok url →
      ∃ form, (s.request world (.text text)).1 = [.post url form service.timeout] ∧
        Carries form (unifyBreaks text)) := by
  intro s
  have carries : Carries (Service.form (unifyBreaks text)) (unifyBreaks text) :=
    Service.form_carries _
  constructor
  · intro url form timeout posted
    cases isClosed : closed with
    | true =>
      subst isClosed
      cases posted
    | false =>
      rw [Source.request_text isClosed world text] at posted
      obtain ⟨url', same⟩ := Linter.mem_run_service posted
      obtain ⟨-, rfl, -⟩ := Call.post.inj same
      exact carries
  · intro isOpen named url address
    refine ⟨_, ?_, carries⟩
    rw [Source.request_text isOpen world text]
    exact Linter.run_service named address world _

/-- Text that looks like a field, a plus sign or an escape is posted as text. -/
theorem posted_form_carries_hostile_document :
    let service : Service := { url := "http://a", timeout := .zero }
    let s : Source := { linter := .service service }
    let world : World := { process := .notFound, reply := .timedOut }
    let text := "a&source=+%2B \"é\"\r\n😀\x00~"
    let form := "source=a%26source%3D%2B%252B+%22%C3%A9%22%0A%F0%9F%98%80%00~"
    (s.closed = false ∧ service.url ≠ "" ∧ WebAddress.read service.url = .ok "http://a" ∧
      .post "http://a" form .zero ∈ (s.request world (.text text)).1) ∧
    Carries form "a&source=+%2B \"é\"\n😀\x00~" ∧
      ∃ form, (s.request world (.text text)).1 = [.post "http://a" form .zero] := by
  intro service s world text form
  have named : service.url ≠ "" := by decide
  have address : WebAddress.read service.url = .ok "http://a" := by decide +kernel
  have unified : unifyBreaks text = "a&source=+%2B \"é\"\n😀\x00~" := by decide +kernel
  have written : Service.form (unifyBreaks text) = form := by decide +kernel
  have listed : .post "http://a" form .zero ∈ (s.request world (.text text)).1 := by
    rw [Source.request_text rfl world text, Linter.run_service named address, written]
    exact List.mem_singleton_self _
  obtain ⟨carries, posted⟩ := posted_form_carries_document service false world text
  obtain ⟨form', asked, -⟩ := posted rfl named "http://a" address
  rw [unified] at carries
  exact ⟨⟨rfl, named, address, listed⟩, carries "http://a" form .zero listed, form', asked⟩

end LiveLint
