import LiveLint.Proofs.Tooltip.Runs
import LiveLint.Tooltip.Display

/-! # The box of a tooltip

The box does not know of marks and pointers, and the tooltip does not look at the box. What the
box shows agrees with the tooltip all the same: after each turn of the tooltip, and after each
frame of the animation, wherever that has come to. -/

namespace LiveLint

namespace TooltipDisplay
open Hover

/-! ## Acts -/

/-- What happens to a tooltip and its box. -/
inductive Act where
  | hover (t : Moment) (a : Hover.Act PointerPosition)
  | frame (opacity : Binary64) (last : Bool)

def act (d : TooltipDisplay) : Act → TooltipDisplay
  | .hover t a =>
    let x := d.hover.act t a
    { d with hover := x.value, box := d.follow x.events }
  | .frame opacity last => { d with box := d.box.frame opacity last }

def perform (acts : List Act) (d : TooltipDisplay) : TooltipDisplay := acts.foldl act d

/-- The view is told of an act. -/
def Act.viewed : Act → Prop
  | .hover _ a => a.viewed
  | .frame _ _ => True

/-! ## The box fits the tooltip -/

/-- A box without its animation: opaque, and at rest. -/
def Still (b : TooltipBox) : Prop := b.opacity = .ofInt 1 ∧ b.fading = false

/-- A box shows what a tooltip shows. A box that is seen without that is about to be hidden. -/
structure Fits (h : Hover PointerPosition) (b : TooltipBox) : Prop where
  showing : h.phase = .showing → b.visible = true ∧ Still b ∧
    ∃ n, h.mark = some n ∧ (h.marks.map (·.markup))[n]? = some b.text
  leaving : b.visible = true → h.phase ≠ .showing → h.fadeAlarm.isSome = true
  hidden : b.visible = false → Still b

theorem follow_phases {events : List (HoverEvent PointerPosition)}
    (told : ∀ e ∈ events, e = .phase .idle) (b : TooltipBox) :
    events.foldl TooltipBox.follow b = b := by
  induction events with
  | nil => rfl
  | cons e events ih =>
    obtain rfl := told e List.mem_cons_self
    exact ih fun e he => told e (List.mem_cons_of_mem _ he)

theorem still_show (b : TooltipBox) (text : String) (pos : PointerPosition) :
    Still (b.show text pos) := by
  simp only [Still, TooltipBox.show, and_self]

theorem still_hide (b : TooltipBox) : Still b.hide := by
  simp only [Still, TooltipBox.hide, and_self]

theorem Still.moveTo {b : TooltipBox} (still : Still b) (pos : PointerPosition) :
    Still (b.moveTo pos) := still

theorem Fits.turn {now : Nat} {h : Hover PointerPosition} {b : TooltipBox} (f : Fits h b)
    {x : Logged (HoverEvent PointerPosition) (Hover PointerPosition)} (turn : Turn now h x) :
    Fits x.value (x.events.foldl TooltipBox.follow b) := by
  obtain ⟨showing, leaving, hidden⟩ := f
  cases turn with
  | point _ => exact ⟨showing, leaving, hidden⟩
  | follow shown =>
    obtain ⟨visible, still, n, mark, text⟩ := showing shown
    have moved : b.move h.pos = b.moveTo h.pos := if_pos visible
    simp only [List.foldl_cons, List.foldl_nil, TooltipBox.follow, moved]
    refine ⟨fun _ => ⟨visible, still.moveTo _, n, mark, text⟩, fun _ dark => absurd shown dark,
      fun _ => still.moveTo _⟩
  | pass w => exact ⟨w.markup ▸ showing, leaving, hidden⟩
  | track w _ idle => exact ⟨by simp, fun seen _ => leaving seen (by simp [idle]), hidden⟩
  | giveUp w tracking => exact ⟨by simp, fun seen _ => leaving seen (by simp [tracking]), hidden⟩
  | @reveal marks n m w found dark =>
    simp only [List.foldl_cons, List.foldl_nil, TooltipBox.follow]
    have text : (marks.map (·.markup))[n]? = some m.markup := by simp [found]
    exact ⟨fun _ => ⟨rfl, still_show _ _ _, n, rfl, text⟩, fun _ dark => absurd rfl dark, nofun⟩
  | leave w turn shown =>
    obtain ⟨visible, -⟩ := showing shown
    have faded : b.fade = { b with fading := true } := if_pos visible
    simp only [List.foldl_cons, List.foldl_nil, TooltipBox.follow, faded]
    refine ⟨nofun, fun _ _ => rfl, fun gone => ?_⟩
    rw [visible] at gone
    cases gone
  | faded dark =>
    simp only [List.foldl_cons, List.foldl_nil, TooltipBox.follow]
    exact ⟨fun shown => absurd shown dark, nofun, fun _ => still_hide b⟩
  | hide w told =>
    rw [List.foldl_cons, follow_phases told]
    exact ⟨nofun, nofun, fun _ => still_hide b⟩

theorem Fits.turns {now : Nat} {h : Hover PointerPosition} {b : TooltipBox} (f : Fits h b)
    {x : Logged (HoverEvent PointerPosition) (Hover PointerPosition)} (turns : Turns now h x) :
    Fits x.value (x.events.foldl TooltipBox.follow b) := by
  induction turns generalizing b with
  | none h => exact f
  | cons first _ ih =>
    rw [Logged.bind_value, Logged.bind_events, List.foldl_append]
    exact ih (f.turn first)

/-- A box that the animation works on is seen, and the tooltip is not shown any more. -/
theorem Fits.frame {h : Hover PointerPosition} {b : TooltipBox} (f : Fits h b) (opacity : Binary64)
    (last : Bool) : Fits h (b.frame opacity last) := by
  obtain ⟨showing, leaving, hidden⟩ := f
  unfold TooltipBox.frame
  split
  next fading =>
    have moving : ¬ Still b := fun still => by simp [still.2] at fading
    refine ⟨fun shown => absurd (showing shown).2.1 moving, leaving, fun gone => ?_⟩
    exact absurd (hidden gone) moving
  next => exact ⟨showing, leaving, hidden⟩

theorem act_fits {d : TooltipDisplay} (s : Settled d.hover) (f : Fits d.hover d.box) {a : Act}
    (viewed : a.viewed) : Settled (d.act a).hover ∧ Fits (d.act a).hover (d.act a).box := by
  cases a with
  | hover t a =>
    have turns := act_turns s t viewed
    exact ⟨s.turns turns, f.turns turns⟩
  | frame opacity last => exact ⟨s, f.frame opacity last⟩

theorem perform_fits {d : TooltipDisplay} (s : Settled d.hover) (f : Fits d.hover d.box)
    {acts : List Act} (viewed : ∀ a ∈ acts, a.viewed) :
    Settled (d.perform acts).hover ∧ Fits (d.perform acts).hover (d.perform acts).box := by
  induction acts generalizing d with
  | nil => exact ⟨s, f⟩
  | cons a acts ih =>
    obtain ⟨s, f⟩ := act_fits s f (viewed a List.mem_cons_self)
    exact ih s f fun a ha => viewed a (List.mem_cons_of_mem _ ha)

/-! ## Steps -/

/-- The tooltip of a display, on the clock. -/
def clocked (d : TooltipDisplay) : HoverRun PointerPosition := { now := d.now, hover := d.hover }

def Step.viewed : Step → Prop
  | .hover s => s.viewed
  | .frame _ _ => True

def stepActs (d : TooltipDisplay) : Step → List Act
  | .hover s => (d.clocked.stepActs s).map fun a => .hover a.1 a.2
  | .frame opacity last => [.frame opacity last]

/-- The acts of which a run consists. -/
def acts : List Step → TooltipDisplay → List Act
  | [], _ => []
  | s :: steps, d => d.stepActs s ++ acts steps (d.step s).value

theorem perform_append (acts more : List Act) (d : TooltipDisplay) :
    d.perform (acts ++ more) = (d.perform acts).perform more := List.foldl_append

theorem perform_hover (acts : List (Moment × Hover.Act PointerPosition)) (d : TooltipDisplay) :
    d.perform (acts.map fun a => .hover a.1 a.2) =
      { d with
        hover := (d.hover.perform acts).value
        box := d.follow (d.hover.perform acts).events } := by
  induction acts generalizing d with
  | nil => rfl
  | cons a acts ih =>
    have first := ih (d.act (.hover a.1 a.2))
    rw [follow, act] at first
    rw [Hover.perform_cons, follow, Logged.bind_events, List.foldl_append]
    exact first

theorem perform_now (acts : List Act) (now : Nat) (d : TooltipDisplay) :
    { d with now := now }.perform acts = { d.perform acts with now := now } := by
  induction acts generalizing d with
  | nil => rfl
  | cons a acts ih =>
    cases a with
    | hover t a => exact ih (d.act (.hover t a))
    | frame opacity last => exact ih (d.act (.frame opacity last))

/-- A step shows what its acts show, at another time. -/
theorem step_eq_perform (s : Step) (d : TooltipDisplay) :
    (d.step s).value = { d.perform (d.stepActs s) with now := (d.step s).value.now } := by
  cases s with
  | frame opacity last => rfl
  | hover s =>
    obtain ⟨value, events⟩ := HoverRun.step_does s d.clocked
    have same : d.clocked.hover = d.hover := rfl
    rw [same] at value events
    rw [stepActs, perform_hover, ← value, ← events]
    rfl

/-- **A run is the sequence of its acts**, with the same tooltip and the same box. -/
theorem run_eq_perform (steps : List Step) (d : TooltipDisplay) :
    (d.run steps).value = { d.perform (d.acts steps) with now := (d.run steps).value.now } := by
  induction steps generalizing d with
  | nil => rfl
  | cons s steps ih =>
    have moved := (congrArg (perform (acts steps (d.step s).value)) (step_eq_perform s d)).trans
      (perform_now _ _ _)
    have rest := ih (d.step s).value
    rw [moved] at rest
    rw [acts, perform_append]
    exact rest

theorem viewed_stepActs {s : Step} (viewed : s.viewed) (d : TooltipDisplay) :
    ∀ a ∈ d.stepActs s, a.viewed := by
  intro a ha
  cases s with
  | hover s =>
    obtain ⟨b, hb, rfl⟩ := List.mem_map.mp ha
    exact HoverRun.viewed_stepActs viewed d.clocked b hb
  | frame _ _ =>
    obtain rfl := List.mem_singleton.mp ha
    trivial

theorem viewed_acts {steps : List Step} (viewed : ∀ s ∈ steps, s.viewed) (d : TooltipDisplay) :
    ∀ a ∈ d.acts steps, a.viewed := by
  induction steps generalizing d with
  | nil => exact nofun
  | cons s steps ih =>
    intro a ha
    rcases List.mem_append.mp ha with ha | ha
    · exact viewed_stepActs (viewed s List.mem_cons_self) d a ha
    · exact ih (fun s hs => viewed s (List.mem_cons_of_mem _ hs)) _ a ha

/-! ## Time -/

/-- The tooltip is not shown, and what fades is gone then. -/
def GoneBy (deadline : Nat) (h : Hover PointerPosition) : Prop :=
  h.phase ≠ .showing ∧ ∀ a, h.fadeAlarm = some a → a.due ≤ deadline

theorem GoneBy.turn {deadline now : Nat} {h : Hover PointerPosition} (g : GoneBy deadline h)
    {x : Logged (HoverEvent PointerPosition) (Hover PointerPosition)} (turn : Turn now h x)
    (unshown : ∀ e ∈ x.events, e.isShow = false) : GoneBy deadline x.value := by
  obtain ⟨dark, soon⟩ := g
  cases turn with
  | point _ | pass _ => exact ⟨dark, soon⟩
  | track _ _ _ => exact ⟨nofun, soon⟩
  | giveUp _ _ => exact ⟨nofun, soon⟩
  | follow showing | leave _ _ showing => exact absurd showing dark
  | reveal _ _ _ => cases unshown _ List.mem_cons_self
  | faded _ => exact ⟨dark, nofun⟩
  | hide _ _ => exact ⟨nofun, nofun⟩

theorem GoneBy.turns {deadline now : Nat} {h : Hover PointerPosition} (g : GoneBy deadline h)
    {x : Logged (HoverEvent PointerPosition) (Hover PointerPosition)} (turns : Turns now h x)
    (unshown : ∀ e ∈ x.events, e.isShow = false) : GoneBy deadline x.value := by
  induction turns with
  | none h => exact g
  | cons first _ ih =>
    rw [Logged.bind_events] at unshown
    exact ih (g.turn first fun e he => unshown e (List.mem_append_left _ he))
      fun e he => unshown e (List.mem_append_right _ he)

theorem GoneBy.perform {deadline : Nat} {h : Hover PointerPosition} (s : Settled h)
    (g : GoneBy deadline h) {acts : List (Moment × Hover.Act PointerPosition)}
    (viewed : ∀ a ∈ acts, a.2.viewed) (unshown : ∀ e ∈ (h.perform acts).events, e.isShow = false) :
    GoneBy deadline (h.perform acts).value := by
  induction acts generalizing h with
  | nil => exact g
  | cons a acts ih =>
    obtain ⟨t, a⟩ := a
    have turns := act_turns s t (viewed _ List.mem_cons_self)
    rw [Hover.perform_cons, Logged.bind_events] at unshown
    exact ih (s.turns turns) (g.turns turns fun e he => unshown e (List.mem_append_left _ he))
      (fun a ha => viewed a (List.mem_cons_of_mem _ ha))
      fun e he => unshown e (List.mem_append_right _ he)

/-- What holds between steps. -/
structure Sound (delay : Nat) (d : TooltipDisplay) : Prop where
  settled : Settled d.hover
  fits : Fits d.hover d.box
  onTime : HoverRun.OnTime delay d.now d.hover

theorem Sound.step {delay : Nat} {d : TooltipDisplay} (h : Sound delay d) {s : Step}
    (viewed : s.viewed) : Sound delay (d.step s).value := by
  obtain ⟨settled, fits⟩ := perform_fits h.settled h.fits (viewed_stepActs viewed d)
  have onTime : HoverRun.OnTime delay (d.step s).value.now (d.step s).value.hover := by
    cases s with
    | hover s => exact HoverRun.step_onTime (r := d.clocked) h.settled h.onTime viewed
    | frame _ _ => exact h.onTime
  have e := step_eq_perform s d
  refine ⟨?_, ?_, onTime⟩ <;> rw [e]
  · exact settled
  · exact fits

theorem Sound.run {delay : Nat} {d : TooltipDisplay} (h : Sound delay d) {steps : List Step}
    (viewed : ∀ s ∈ steps, s.viewed) : Sound delay (d.run steps).value := by
  induction steps generalizing d with
  | nil => exact h
  | cons s steps ih =>
    exact ih (h.step (viewed s List.mem_cons_self)) fun s hs => viewed s (List.mem_cons_of_mem _ hs)

/-- When time has passed, the alarm of a tooltip that fades is not due yet. -/
theorem Sound.undue {delay : Nat} {d : TooltipDisplay} (h : Sound delay d) (ms : Nat) :
    let d' := (d.step (.hover (.advance ms))).value
    ∀ a, d'.hover.fadeAlarm = some a → d'.now < a.due := by
  obtain ⟨now, -, undue⟩ := HoverRun.runTo_onTime (r := d.clocked) h.settled h.onTime
    (Nat.le_add_right d.now ms) (Nat.lt_succ_of_le (HoverRun.alarmsSet_le d.hover))
  intro d' a set
  have same : d'.now = d.now + ms := now
  rw [same]
  exact undue a set

theorem GoneBy.step {deadline : Nat} {d : TooltipDisplay} (s : Settled d.hover)
    (g : GoneBy deadline d.hover) {a : Step} (viewed : a.viewed)
    (unshown : ∀ e ∈ (d.step a).events, e.isShow = false) :
    GoneBy deadline (d.step a).value.hover := by
  cases a with
  | frame opacity last => exact g
  | hover a =>
    obtain ⟨value, events⟩ := HoverRun.step_does a d.clocked
    have unshown : ∀ e ∈ (d.clocked.step a).events, e.isShow = false := unshown
    rw [events] at unshown
    have gone : (d.step (.hover a)).value.hover = (d.clocked.step a).value.hover := rfl
    rw [gone, value]
    exact g.perform s (HoverRun.viewed_stepActs viewed d.clocked) unshown

theorem GoneBy.run {deadline delay : Nat} {d : TooltipDisplay} (h : Sound delay d)
    (g : GoneBy deadline d.hover) {steps : List Step} (viewed : ∀ s ∈ steps, s.viewed)
    (unshown : ∀ e ∈ (d.run steps).events, e.isShow = false) :
    GoneBy deadline (d.run steps).value.hover := by
  induction steps generalizing d with
  | nil => exact g
  | cons s steps ih =>
    have first := viewed s List.mem_cons_self
    have told : (d.run (s :: steps)).events =
      (d.step s).events ++ ((d.step s).value.run steps).events := rfl
    rw [told] at unshown
    exact ih (h.step first)
      (g.step h.settled first fun e he => unshown e (List.mem_append_left _ he))
      (fun s hs => viewed s (List.mem_cons_of_mem _ hs))
      fun e he => unshown e (List.mem_append_right _ he)

/-! ## What is seen -/

/-- A tooltip over marks, with a box that fades as long as the tooltip waits for it, before
anything has happened. -/
def start (restDelay fadeDelay : Nat) (table : List (Mark Watcher)) (pos : PointerPosition) :
    TooltipDisplay :=
  { hover := Hover.start restDelay fadeDelay table pos, box := { fadeTime := fadeDelay } }

theorem start_sound (restDelay fadeDelay : Nat) (table : List (Mark Watcher))
    (pos : PointerPosition) : Sound fadeDelay (start restDelay fadeDelay table pos) := by
  have still : Still { fadeTime := fadeDelay } := by simp only [Still, and_self]
  exact {
    settled := start_settled restDelay fadeDelay table pos
    fits := ⟨nofun, nofun, fun _ => still⟩
    onTime := ⟨rfl, nofun, nofun⟩ }

/-- **The box shows what the tooltip shows.** Every run on a clock is a sequence of acts, and
after all acts of which the view is told: a tooltip that is shown is seen, with the markup of its
mark, opaque, and it does not fade; a box that is seen otherwise is about to be hidden by the
alarm of the fading tooltip; a hidden box is opaque and does not fade. On the clock it is hidden
when the delay for that has passed, unless a tooltip was shown again. -/
theorem box_shows_tooltip (restDelay fadeDelay : Nat) (table : List (Mark Watcher))
    (pos : PointerPosition) :
    let first := start restDelay fadeDelay table pos
    (∀ steps, (∀ s ∈ steps, s.viewed) → (∀ a ∈ first.acts steps, a.viewed) ∧
      (first.run steps).value =
        { first.perform (first.acts steps) with now := (first.run steps).value.now }) ∧
    (∀ acts, (∀ a ∈ acts, a.viewed) → let d := first.perform acts
      (d.hover.phase = .showing →
        d.box.visible = true ∧ d.box.opacity = .ofInt 1 ∧ d.box.fading = false ∧
        ∃ n m, d.hover.mark = some n ∧ d.hover.marks[n]? = some m ∧ d.box.text = m.markup) ∧
      (d.box.visible = true → d.hover.phase ≠ .showing → d.hover.fadeAlarm.isSome = true) ∧
      (d.box.visible = false → d.box.opacity = .ofInt 1 ∧ d.box.fading = false)) ∧
    ∀ before after ms, (∀ s ∈ before, s.viewed) → (∀ s ∈ after, s.viewed) →
      let d := (first.run before).value
      let x := d.run (after ++ [.hover (.advance ms)])
      d.box.visible = true → d.hover.phase ≠ .showing → d.now + fadeDelay ≤ x.value.now →
        (∀ e ∈ x.events, e.isShow = false) → x.value.box.visible = false := by
  intro first
  have sound : Sound fadeDelay first := start_sound restDelay fadeDelay table pos
  refine ⟨fun steps viewed => ⟨viewed_acts viewed first, run_eq_perform steps first⟩,
    fun acts viewed => ?_, fun before after ms viewed viewed' => ?_⟩
  · obtain ⟨-, fits⟩ := perform_fits sound.settled sound.fits viewed
    refine ⟨fun shown => ?_, fits.leaving, fits.hidden⟩
    obtain ⟨visible, ⟨solid, still⟩, n, mark, text⟩ := fits.showing shown
    rw [List.getElem?_map] at text
    obtain ⟨m, found, same⟩ := Option.map_eq_some_iff.mp text
    exact ⟨visible, solid, still, n, m, mark, found, same.symm⟩
  · intro d x seen dark passed unshown
    have sound : Sound fadeDelay d := sound.run viewed
    have passes : ∀ s ∈ after ++ [.hover (.advance ms)], s.viewed := by
      intro s hs
      rcases List.mem_append.mp hs with hs | hs
      · exact viewed' s hs
      · obtain rfl := List.mem_singleton.mp hs
        trivial
    have soon : GoneBy (d.now + fadeDelay) d.hover :=
      ⟨dark, fun a set => (sound.onTime.fade a set).2⟩
    obtain ⟨dark', gone⟩ := soon.run sound passes unshown
    have undue : ∀ a, x.value.hover.fadeAlarm = some a → x.value.now < a.due := by
      have e : x.value = ((d.run after).value.step (.hover (.advance ms))).value := by
        simp [x, run]
      rw [e]
      exact (sound.run viewed').undue ms
    refine Bool.eq_false_iff.mpr fun seen => ?_
    obtain ⟨a, set⟩ := Option.isSome_iff_exists.mp ((sound.run passes).fits.leaving seen dark')
    exact absurd (Nat.le_trans (gone a set) passed) (Nat.not_le.mpr (undue a set))

/-- The pointer leaves a tooltip that is shown. The animation draws a frame, and the box is
hidden after the delay although the pointer has come to another mark. -/
theorem box_shows_tooltip_until_faded :
    let finding : Finding := ⟨⟨⟨1, 1⟩, ⟨1, 2⟩⟩, .error, "bad", "", "", ""⟩
    let mark : Mark Watcher := Mark.ofFinding none finding
    let shown : List Act :=
      [.hover ⟨0, 0⟩ (.move (some 0) none), .hover ⟨180, 0⟩ (.ring .rest)]
    let before : List Step := [.hover (.move (some 0) none), .hover (.advance 180), .hover .left]
    let after : List Step := [.frame (.ofInt 0) false, .hover (.move (some 1) none)]
    let first := start 180 150 [mark, mark] none
    (∃ n m, (first.perform shown).hover.mark = some n ∧
        (first.perform shown).hover.marks[n]? = some m ∧
        (first.perform shown).box.text = m.markup) ∧
      (first.run before).value.box.visible = true ∧
      ((first.run before).value.run (after ++ [.hover (.advance 150)])).value.box.visible =
        false := by
  intro finding mark shown before after first
  obtain ⟨-, shows, hides⟩ := box_shows_tooltip 180 150 [mark, mark] none
  have viewed : ∀ s ∈ before, s.viewed := by simp [before, Step.viewed, HoverRun.Step.viewed]
  have viewed' : ∀ s ∈ after, s.viewed := by simp [after, Step.viewed, HoverRun.Step.viewed]
  have told : ∀ a ∈ shown, a.viewed := by simp [shown, Act.viewed, Hover.Act.viewed]
  have showing : (first.perform shown).hover.phase = .showing := by decide +kernel
  have seen : (first.run before).value.box.visible = true := by decide +kernel
  have dark : (first.run before).value.hover.phase ≠ .showing := by decide +kernel
  have passed : (first.run before).value.now + 150 ≤
      ((first.run before).value.run (after ++ [.hover (.advance 150)])).value.now := by
    decide +kernel
  have unshown : ∀ e ∈ ((first.run before).value.run (after ++ [.hover (.advance 150)])).events,
      e.isShow = false := by decide +kernel
  have shows := shows shown told
  have hides := hides before after 150 viewed viewed'
  generalize first.perform shown = d at showing shows ⊢
  generalize (first.run before).value = d' at seen dark passed unshown hides ⊢
  obtain ⟨-, -, -, n, m, mark, found, text⟩ := shows.1 showing
  exact ⟨⟨n, m, mark, found, text⟩, seen, hides seen dark passed unshown⟩

end TooltipDisplay
end LiveLint
