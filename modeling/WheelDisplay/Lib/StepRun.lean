import Mathlib.Logic.Function.Basic

/-! # Runs of a deterministic step function

A component is a state type with a step function on events, and a run is the
left fold of a list of events. Safety properties are stated with `Along`, which
looks at every state of the run together with the event it takes next. The
rules below turn a property of one step into a property of a whole run.
-/

namespace StepRun

universe u v w

variable {σ : Type u} {ε : Type v} {α : Type w}

def run (step : σ → ε → σ) (s : σ) (events : List ε) : σ := events.foldl step s

@[simp] theorem run_nil (step : σ → ε → σ) (s : σ) : run step s [] = s := rfl

@[simp] theorem run_cons (step : σ → ε → σ) (s : σ) (e : ε) (rest : List ε) :
    run step s (e :: rest) = run step (step s e) rest := rfl

theorem run_append (step : σ → ε → σ) (s : σ) (first second : List ε) :
    run step s (first ++ second) = run step (run step s first) second :=
  List.foldl_append

/-- `P` holds at every state of the run, of that state and the event taken in it. -/
def Along (step : σ → ε → σ) (P : σ → ε → Prop) : σ → List ε → Prop
  | _, [] => True
  | s, e :: rest => P s e ∧ Along step P (step s e) rest

instance decidableAlong (step : σ → ε → σ) (P : σ → ε → Prop) [∀ s e, Decidable (P s e)] :
    ∀ (s : σ) (events : List ε), Decidable (Along step P s events)
  | _, [] => isTrue trivial
  | s, e :: rest =>
    have := decidableAlong step P (step s e) rest
    inferInstanceAs (Decidable (P s e ∧ Along step P (step s e) rest))

@[simp] theorem along_nil (step : σ → ε → σ) (P : σ → ε → Prop) (s : σ) : Along step P s [] :=
  trivial

@[simp] theorem along_cons (step : σ → ε → σ) (P : σ → ε → Prop) (s : σ) (e : ε) (rest : List ε) :
    Along step P s (e :: rest) ↔ P s e ∧ Along step P (step s e) rest := Iff.rfl

theorem along_append (step : σ → ε → σ) (P : σ → ε → Prop) (s : σ) (first second : List ε) :
    Along step P s (first ++ second) ↔
      Along step P s first ∧ Along step P (run step s first) second := by
  induction first generalizing s with
  | nil => simp
  | cons e rest ih => simp only [List.cons_append, along_cons, run_cons, ih, and_assoc]

theorem along_iff_forall_split (step : σ → ε → σ) (P : σ → ε → Prop) (s : σ) (events : List ε) :
    Along step P s events ↔
      ∀ before e after, events = before ++ e :: after → P (run step s before) e := by
  constructor
  · rintro h before e after rfl
    exact ((along_append step P s before (e :: after)).mp h).2.1
  · intro h
    induction events generalizing s with
    | nil => trivial
    | cons e rest ih =>
      refine ⟨h [] e rest rfl, ih (step s e) ?_⟩
      intro before e' after hSplit
      exact h (e :: before) e' after (by rw [hSplit, List.cons_append])

theorem along_event_iff (step : σ → ε → σ) (P : ε → Prop) (s : σ) (events : List ε) :
    Along step (fun _ e => P e) s events ↔ ∀ e ∈ events, P e := by
  induction events generalizing s with
  | nil => simp
  | cons e rest ih => rw [along_cons, ih, List.forall_mem_cons]

theorem along_true (step : σ → ε → σ) (s : σ) (events : List ε) : Along step (fun _ _ => True) s events :=
  (along_event_iff step (fun _ => True) s events).mpr fun _ _ => trivial

theorem run_invariant {step : σ → ε → σ} (Inv : σ → Prop)
    (hStep : ∀ s e, Inv s → Inv (step s e)) {s : σ} (h : Inv s) (events : List ε) :
    Inv (run step s events) := by
  induction events generalizing s with
  | nil => exact h
  | cons e rest ih => exact ih (hStep s e h)

theorem run_invariant_along {step : σ → ε → σ} {P : σ → ε → Prop} (Inv : σ → Prop)
    (hStep : ∀ s e, Inv s → P s e → Inv (step s e)) {s : σ} (h : Inv s) {events : List ε}
    (hAlong : Along step P s events) : Inv (run step s events) := by
  induction events generalizing s with
  | nil => exact h
  | cons e rest ih => exact ih (hStep s e h hAlong.1) hAlong.2

/-- A step property that an invariant implies holds along every run. -/
theorem along_of_invariant {step : σ → ε → σ} {P : σ → ε → Prop} (Inv : σ → Prop)
    (hStep : ∀ s e, Inv s → Inv (step s e)) (hP : ∀ s e, Inv s → P s e) {s : σ} (h : Inv s) (events : List ε) :
    Along step P s events := by
  induction events generalizing s with
  | nil => trivial
  | cons e rest ih => exact ⟨hP s e h, ih (hStep s e h)⟩

/-- Two step properties that agree under an invariant, which the steps meeting
the second one preserve, agree on whole runs. -/
theorem along_congr_of_invariant {step : σ → ε → σ} {P Q : σ → ε → Prop} (Inv : σ → Prop)
    (hStep : ∀ s e, Inv s → Q s e → Inv (step s e)) (hPQ : ∀ s e, Inv s → (P s e ↔ Q s e))
    {s : σ} (h : Inv s) (events : List ε) :
    Along step P s events ↔ Along step Q s events := by
  induction events generalizing s with
  | nil => exact Iff.rfl
  | cons e rest ih =>
    rw [along_cons, along_cons, hPQ s e h]
    exact and_congr_right fun hQ => ih (hStep s e h hQ)

theorem along_mono {step : σ → ε → σ} {P Q : σ → ε → Prop} (hPQ : ∀ s e, P s e → Q s e)
    {s : σ} {events : List ε} (h : Along step P s events) : Along step Q s events := by
  induction events generalizing s with
  | nil => trivial
  | cons e rest ih => exact ⟨hPQ s e h.1, ih h.2⟩

/-- `P` holds along a run in which `Q` does, with an invariant that the steps meeting `Q` preserve. -/
theorem along_imp_of_invariant {step : σ → ε → σ} {P Q : σ → ε → Prop} (Inv : σ → Prop)
    (hStep : ∀ s e, Inv s → Q s e → Inv (step s e)) (hPQ : ∀ s e, Inv s → Q s e → P s e)
    {s : σ} (h : Inv s) {events : List ε} (hAlong : Along step Q s events) : Along step P s events := by
  induction events generalizing s with
  | nil => trivial
  | cons e rest ih => exact ⟨hPQ s e h hAlong.1, ih (hStep s e h hAlong.1) hAlong.2⟩

theorem along_forall {ι : Sort*} (step : σ → ε → σ) (P : ι → σ → ε → Prop) (s : σ) (events : List ε) :
    Along step (fun s e => ∀ i, P i s e) s events ↔ ∀ i, Along step (P i) s events := by
  induction events generalizing s with
  | nil => simp
  | cons e rest ih => simp only [along_cons, ih, forall_and]

def emitted (step : σ → ε → σ) (emit : σ → ε → Option α) : σ → List ε → List α
  | _, [] => []
  | s, e :: rest => (emit s e).toList ++ emitted step emit (step s e) rest

theorem emitted_bind {ι : Type*} {step : σ → ε → σ} {emit : σ → ε → Option α} {input : σ → ε → Option ι}
    {g : ι → Option α} (hEmit : ∀ s e, emit s e = (input s e).bind g) (s : σ) (events : List ε) :
    emitted step emit s events = (emitted step input s events).filterMap g := by
  induction events generalizing s with
  | nil => rfl
  | cons e rest ih =>
    rw [emitted, emitted, ih, List.filterMap_append, hEmit]
    cases input s e with
    | none => rfl
    | some i => cases hG : g i <;> simp [hG]

theorem emitted_forall {step : σ → ε → σ} {emit : σ → ε → Option α} {P : α → Prop}
    (hEmit : ∀ s e a, emit s e = some a → P a) (s : σ) (events : List ε) : ∀ a ∈ emitted step emit s events, P a := by
  induction events generalizing s with
  | nil => simp [emitted]
  | cons e rest ih =>
    rw [emitted, List.forall_mem_append]
    refine ⟨?_, ih (step s e)⟩
    intro a hMem
    exact hEmit s e a (Option.mem_toList.mp hMem)

/-- What is emitted is counted by the events when they decide whether anything is. -/
theorem emitted_length {step : σ → ε → σ} {emit : σ → ε → Option α} {keep : ε → Bool}
    (hEmit : ∀ s e, (emit s e).isSome = keep e) (s : σ) (events : List ε) :
    (emitted step emit s events).length = events.countP keep := by
  induction events generalizing s with
  | nil => rfl
  | cons e rest ih =>
    have hHead := hEmit s e
    rw [emitted, List.length_append, ih, List.countP_cons, ← hHead, Nat.add_comm]
    cases emit s e <;> rfl

/-- A part of the state that changes only by what the run emits is the fold of the emitted values. -/
theorem project_run {β : Type*} {step : σ → ε → σ} (emit : σ → ε → Option α) (act : β → α → β)
    (project : σ → β)
    (hStep : ∀ s e, project (step s e) = (emit s e).toList.foldl act (project s))
    (s : σ) (events : List ε) :
    project (run step s events) = (emitted step emit s events).foldl act (project s) := by
  induction events generalizing s with
  | nil => rfl
  | cons e rest ih => rw [run_cons, ih, hStep, emitted, List.foldl_append]

theorem run_related {τ : Type*} {step : σ → ε → σ} {step' : τ → ε → τ} (R : σ → τ → Prop)
    (hStep : ∀ s t e, R s t → R (step s e) (step' t e)) {s : σ} {t : τ} (h : R s t) (events : List ε) :
    R (run step s events) (run step' t events) := by
  induction events generalizing s t with
  | nil => exact h
  | cons e rest ih => exact ih (hStep s t e h)

/-- A relation that the steps of two components keep, and under which they emit the same, holds along
their runs. -/
theorem run_simulates {τ : Type*} {step : σ → ε → σ} {step' : τ → ε → τ} {emit : σ → ε → Option α}
    {emit' : τ → ε → Option α} (R : σ → τ → Prop)
    (hStep : ∀ s t e, R s t → emit s e = emit' t e ∧ R (step s e) (step' t e)) {s : σ} {t : τ} (h : R s t)
    (events : List ε) :
    emitted step emit s events = emitted step' emit' t events ∧ R (run step s events) (run step' t events) := by
  induction events generalizing s t with
  | nil => exact ⟨rfl, h⟩
  | cons e rest ih =>
    obtain ⟨hEmit, hNext⟩ := hStep s t e h
    obtain ⟨hRest, hEnd⟩ := ih hNext
    exact ⟨by rw [emitted, emitted, hEmit, hRest], hEnd⟩

/-- A component keeps up with an abstract machine that takes the inputs it makes of its events. -/
theorem run_follows_along {τ : Type*} {ι : Type*} {step : σ → ε → σ} {step' : τ → ι → τ} {input : σ → ε → Option ι}
    {P : σ → ε → Prop} (R : σ → τ → Prop)
    (hStep : ∀ s t e, R s t → P s e → R (step s e) ((input s e).elim t (step' t))) {s : σ} {t : τ} (h : R s t)
    {events : List ε} (hAlong : Along step P s events) :
    R (run step s events) (run step' t (emitted step input s events)) := by
  induction events generalizing s t with
  | nil => exact h
  | cons e rest ih =>
    have hNext := ih (hStep s t e h hAlong.1) hAlong.2
    rw [run_cons, emitted, run_append]
    cases hInput : input s e with
    | none => rwa [hInput] at hNext
    | some i => rwa [hInput] at hNext

theorem run_follows {τ : Type*} {ι : Type*} {step : σ → ε → σ} {step' : τ → ι → τ} {input : σ → ε → Option ι}
    (R : σ → τ → Prop) (hStep : ∀ s t e, R s t → R (step s e) ((input s e).elim t (step' t))) {s : σ} {t : τ}
    (h : R s t) (events : List ε) : R (run step s events) (run step' t (emitted step input s events)) :=
  run_follows_along R (fun s t e hHere _ => hStep s t e hHere) h (along_true step s events)

/-- What a component logs, when each step does nothing or is one step of an abstract machine on the input
that the component makes of it. -/
theorem run_refines_along {τ : Type*} {ι : Type*} {step : σ → ε → σ} {step' : τ → ι → τ} {P : σ → ε → Prop}
    (input : σ → ε → Option ι) (emit' : τ → ι → Option α) (log : σ → List α) (R : σ → τ → Prop)
    (hStep : ∀ s t e, R s t → P s e →
      log (step s e) = log s ++ ((input s e).bind (emit' t)).toList ∧ R (step s e) ((input s e).elim t (step' t)))
    {s : σ} {t : τ} (h : R s t) {events : List ε} (hAlong : Along step P s events) :
    log (run step s events) = log s ++ emitted step' emit' t (emitted step input s events) ∧
      R (run step s events) (run step' t (emitted step input s events)) := by
  induction events generalizing s t with
  | nil => exact ⟨(List.append_nil _).symm, h⟩
  | cons e rest ih =>
    obtain ⟨hLog, hNext⟩ := hStep s t e h hAlong.1
    obtain ⟨hRest, hEnd⟩ := ih hNext hAlong.2
    rw [run_cons, emitted, hRest, hLog]
    cases hInput : input s e with
    | none =>
      rw [hInput] at hEnd
      exact ⟨by simp, hEnd⟩
    | some i =>
      rw [hInput] at hEnd
      exact ⟨by simp [emitted], hEnd⟩

theorem run_refines {τ : Type*} {ι : Type*} {step : σ → ε → σ} {step' : τ → ι → τ} (input : σ → ε → Option ι)
    (emit' : τ → ι → Option α) (log : σ → List α) (R : σ → τ → Prop)
    (hStep : ∀ s t e, R s t →
      log (step s e) = log s ++ ((input s e).bind (emit' t)).toList ∧ R (step s e) ((input s e).elim t (step' t)))
    {s : σ} {t : τ} (h : R s t) (events : List ε) :
    log (run step s events) = log s ++ emitted step' emit' t (emitted step input s events) ∧
      R (run step s events) (run step' t (emitted step input s events)) :=
  run_refines_along input emit' log R (fun s t e hHere _ => hStep s t e hHere) h (along_true step s events)

def tally (step : σ → ε → σ) (amount : σ → ε → Nat) : σ → List ε → Nat
  | _, [] => 0
  | s, e :: rest => amount s e + tally step amount (step s e) rest

def Balanced (step : σ → ε → σ) (paid spent : σ → ε → Nat) (level : σ → Nat) (s : σ) (e : ε) : Prop :=
  spent s e + level (step s e) = paid s e + level s

theorem tally_balance {step : σ → ε → σ} {paid spent : σ → ε → Nat} {level : σ → Nat} {s : σ}
    {events : List ε} (h : Along step (Balanced step paid spent level) s events) :
    tally step spent s events + level (run step s events) =
      tally step paid s events + level s := by
  induction events generalizing s with
  | nil => rfl
  | cons e rest ih =>
    have hHead : spent s e + level (step s e) = paid s e + level s := h.1
    have hRest := ih h.2
    simp only [tally, run_cons]
    omega

theorem tally_le {step : σ → ε → σ} {paid spent : σ → ε → Nat} {level : σ → Nat} {s : σ} {events : List ε}
    (h : Along step (fun s e => spent s e + level s ≤ paid s e + level (step s e)) s events) :
    tally step spent s events + level s ≤ tally step paid s events + level (run step s events) := by
  induction events generalizing s with
  | nil => exact Nat.le_refl _
  | cons e rest ih =>
    have hHead : spent s e + level s ≤ paid s e + level (step s e) := h.1
    have hRest := ih h.2
    simp only [tally, run_cons]
    omega

/-- A relation between the state and some counts, which each step keeps as it adds to them. -/
theorem run_tallies {ι : Type*} {step : σ → ε → σ} {amount : ι → σ → ε → Nat} (R : σ → (ι → Nat) → Prop)
    (hStep : ∀ s n e, R s n → R (step s e) fun i => n i + amount i s e) {s : σ} {n : ι → Nat} (h : R s n)
    (events : List ε) : R (run step s events) fun i => n i + tally step (amount i) s events := by
  induction events generalizing s n with
  | nil => exact h
  | cons e rest ih =>
    have hRest := ih (hStep s n e h)
    simp only [Nat.add_assoc] at hRest
    exact hRest

theorem tally_mul (step : σ → ε → σ) (k : Nat) (amount : σ → ε → Nat) (s : σ) (events : List ε) :
    tally step (fun s e => k * amount s e) s events = k * tally step amount s events := by
  induction events generalizing s with
  | nil => rfl
  | cons e rest ih => rw [tally, tally, ih, Nat.mul_add]

theorem tally_eq_zero {step : σ → ε → σ} {amount : σ → ε → Nat} {s : σ} {events : List ε}
    (h : Along step (fun s e => amount s e = 0) s events) : tally step amount s events = 0 := by
  induction events generalizing s with
  | nil => rfl
  | cons e rest ih => rw [tally, h.1, ih h.2]

/-- The steps balance one by one exactly when every segment of the run balances. -/
theorem along_balanced_iff {step : σ → ε → σ} {paid spent : σ → ε → Nat} {level : σ → Nat} {s : σ}
    {events : List ε} :
    Along step (Balanced step paid spent level) s events ↔
      ∀ before segment after, events = before ++ segment ++ after →
        tally step spent (run step s before) segment + level (run step s (before ++ segment)) =
          tally step paid (run step s before) segment + level (run step s before) := by
  constructor
  · rintro h before segment after rfl
    rw [along_append, along_append] at h
    rw [run_append]
    exact tally_balance h.1.2
  · intro h
    rw [along_iff_forall_split]
    rintro before e after rfl
    have hStep := h before [e] after (by simp)
    simpa [tally, run_append, Balanced] using hStep

end StepRun
