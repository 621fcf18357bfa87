import Mathlib.Logic.Function.Basic

/-! # Slaves on a serial bus

The master has a select line to each slave. It sends a word to all slaves that
are selected, and each of them gives one back; `wiring` says what the master then
reads from the common line. A session with one slave at a time is a session with
that slave alone.
-/

namespace SerialBus

universe u v w

variable {ι : Type u} {β : Type v}

/-- What a slave does when its select line goes down, for each word, and when the line goes up. -/
structure Slave (β : Type v) (σ : Type w) where
  select : σ → σ
  exchange : β → σ → β × σ
  release : σ → σ

namespace Slave

variable {σ : Type w} (slave : Slave β σ)

def edge (before after : Bool) (s : σ) : σ :=
  match before, after with
  | false, true => slave.select s
  | true, false => slave.release s
  | _, _ => s

theorem edge_same (line : Bool) (s : σ) : slave.edge line line s = s := by
  cases line <;> rfl

/-- The words that the slave gives back for a list of words, and its state after them. -/
def talk : List β → σ → List β × σ
  | [], s => ([], s)
  | out :: rest, s =>
    let (answer, s) := slave.exchange out s
    let (answers, s) := talk rest s
    (answer :: answers, s)

def session (outs : List β) (s : σ) : List β × σ :=
  let (answers, s) := slave.talk outs (slave.select s)
  (answers, slave.release s)

end Slave

structure Bus (σ : ι → Type w) where
  selected : ι → Bool
  state : ∀ i, σ i

def nobody : ι → Bool := fun _ => false

def only [DecidableEq ι] (i : ι) : ι → Bool := fun j => decide (j = i)

/-- A single slave is heard as it is. -/
def Faithful [DecidableEq ι] (wiring : (ι → Option β) → β) : Prop :=
  ∀ i word, wiring (fun j => if j = i then some word else none) = word

namespace Bus

variable {σ : ι → Type w} (slave : ∀ i, Slave β (σ i)) (wiring : (ι → Option β) → β)

def drive (selected : ι → Bool) (b : Bus σ) : Bus σ where
  selected := selected
  state := fun i => (slave i).edge (b.selected i) (selected i) (b.state i)

def exchange (out : β) (b : Bus σ) : β × Bus σ :=
  (wiring fun i => if b.selected i then some ((slave i).exchange out (b.state i)).1 else none,
    { b with state := fun i => if b.selected i then ((slave i).exchange out (b.state i)).2 else b.state i })

def talk : List β → Bus σ → List β × Bus σ
  | [], b => ([], b)
  | out :: rest, b =>
    let (answer, b) := b.exchange slave wiring out
    let (answers, b) := talk rest b
    (answer :: answers, b)

@[simp] theorem drive_selected (selected : ι → Bool) (b : Bus σ) : (b.drive slave selected).selected = selected := rfl

theorem drive_same {selected : ι → Bool} {b : Bus σ} (h : b.selected = selected) : b.drive slave selected = b := by
  obtain ⟨before, state⟩ := b
  cases h
  rw [drive, Bus.mk.injEq]
  exact ⟨rfl, funext fun i => (slave i).edge_same (before i) (state i)⟩

/-- Edges do nothing to slaves that are waiting already. -/
theorem drive_still {b : Bus σ}
    (h : ∀ i, (slave i).select (b.state i) = b.state i ∧ (slave i).release (b.state i) = b.state i)
    (selected : ι → Bool) : (b.drive slave selected).state = b.state := by
  funext i
  obtain ⟨hSelect, hRelease⟩ := h i
  change (slave i).edge (b.selected i) (selected i) (b.state i) = b.state i
  cases b.selected i <;> cases selected i <;> first | rfl | exact hSelect | exact hRelease

variable [DecidableEq ι]

theorem drive_only {b : Bus σ} (h : b.selected = nobody) (i : ι) :
    b.drive slave (only i) = ⟨only i, Function.update b.state i ((slave i).select (b.state i))⟩ := by
  rw [drive, Bus.mk.injEq]
  refine ⟨rfl, funext fun j => ?_⟩
  rw [h, nobody]
  obtain rfl | hOther := eq_or_ne j i
  · rw [Function.update_self, only, decide_eq_true rfl]
    rfl
  · rw [Function.update_of_ne hOther, only, decide_eq_false hOther]
    rfl

theorem drive_nobody {b : Bus σ} {i : ι} (h : b.selected = only i) :
    b.drive slave nobody = ⟨nobody, Function.update b.state i ((slave i).release (b.state i))⟩ := by
  rw [drive, Bus.mk.injEq]
  refine ⟨rfl, funext fun j => ?_⟩
  rw [h, nobody]
  obtain rfl | hOther := eq_or_ne j i
  · rw [Function.update_self, only, decide_eq_true rfl]
    rfl
  · rw [Function.update_of_ne hOther, only, decide_eq_false hOther]
    rfl

theorem exchange_only {wiring : (ι → Option β) → β} (hWiring : Faithful wiring) {b : Bus σ} {i : ι}
    (h : b.selected = only i) (out : β) :
    b.exchange slave wiring out = (((slave i).exchange out (b.state i)).1,
      { b with state := Function.update b.state i ((slave i).exchange out (b.state i)).2 }) := by
  have hHeard : (fun j => if b.selected j then some ((slave j).exchange out (b.state j)).1 else none) =
      fun j => if j = i then some ((slave i).exchange out (b.state i)).1 else none := by
    funext j
    rw [h, only]
    obtain rfl | hOther := eq_or_ne j i
    · rw [decide_eq_true rfl, if_pos rfl, if_pos rfl]
    · rw [decide_eq_false hOther, if_neg hOther]
      rfl
  have hState : (fun j => if b.selected j then ((slave j).exchange out (b.state j)).2 else b.state j) =
      Function.update b.state i ((slave i).exchange out (b.state i)).2 := by
    funext j
    rw [h, only]
    obtain rfl | hOther := eq_or_ne j i
    · rw [decide_eq_true rfl, if_pos rfl, Function.update_self]
    · rw [decide_eq_false hOther, Function.update_of_ne hOther]
      rfl
  rw [exchange, hHeard, hState, hWiring]

theorem talk_only {wiring : (ι → Option β) → β} (hWiring : Faithful wiring) {b : Bus σ} {i : ι}
    (h : b.selected = only i) (outs : List β) :
    b.talk slave wiring outs = (((slave i).talk outs (b.state i)).1,
      { b with state := Function.update b.state i ((slave i).talk outs (b.state i)).2 }) := by
  induction outs generalizing b with
  | nil => rw [talk, Slave.talk, Function.update_eq_self]
  | cons out rest ih =>
    have hRest := ih (b := { b with state := Function.update b.state i ((slave i).exchange out (b.state i)).2 }) h
    dsimp only at hRest
    rw [Function.update_self, Function.update_idem] at hRest
    rw [talk, exchange_only slave hWiring h]
    dsimp only
    rw [hRest]
    rfl

/-- A session on an idle bus: the slave is all that changes. -/
theorem session_only {wiring : (ι → Option β) → β} (hWiring : Faithful wiring) {b : Bus σ}
    (h : b.selected = nobody) (i : ι) (outs : List β) :
    let talked := (b.drive slave (only i)).talk slave wiring outs
    (talked.1, talked.2.drive slave nobody) =
      (((slave i).session outs (b.state i)).1,
        { b with state := Function.update b.state i ((slave i).session outs (b.state i)).2 }) := by
  obtain ⟨before, state⟩ := b
  cases h
  rw [drive_only slave rfl, talk_only slave hWiring rfl]
  dsimp only
  rw [drive_nobody slave rfl]
  dsimp only
  rw [Function.update_self, Function.update_self, Function.update_idem, Function.update_idem]
  rfl

end Bus

end SerialBus
