import SpeechHost.Audio.LowShelf
/-!
# Filtering block by block

A filter remembers what it needs to go on, and remembers it as it was before the cut to 16 bits. So it does
not matter where samples are cut into blocks (`process_append`), and since a reset leaves nothing but the
weights, what stands between two resets is filtered as by a filter that was just made
(`outputs_between_resets`).
-/

namespace SpeechHost.Audio.LowShelf

/-! ## Histories -/

inductive Turn where
  | process (block : List Int16)
  | reset

/-- What comes out at a turn, and the filter after it. Nothing comes out at a reset. -/
def step (f : LowShelf) : Turn → List Int16 × LowShelf
  | .process block => f.process block
  | .reset => ([], f.reset)

def run (f : LowShelf) : List Turn → List (List Int16) × LowShelf
  | [] => ([], f)
  | t :: ts =>
    let (out, f) := f.step t
    let (outs, f) := f.run ts
    (out :: outs, f)

def outputs (f : LowShelf) (ts : List Turn) : List (List Int16) :=
  (f.run ts).1

def fresh (w : Weights) : LowShelf := ⟨w, .silence⟩

variable (f : LowShelf)

@[simp] theorem run_nil : f.run [] = ([], f) := rfl

theorem run_cons (t : Turn) (ts : List Turn) :
    f.run (t :: ts) = ((f.step t).1 :: ((f.step t).2.run ts).1, ((f.step t).2.run ts).2) := rfl

/-! ## Where samples are cut -/

theorem process_cons (x : Int16) (xs : List Int16) :
    f.process (x :: xs) =
      (saturate (f.next x.toFloat).1 :: ((f.next x.toFloat).2.process xs).1,
        ((f.next x.toFloat).2.process xs).2) := rfl

theorem process_append (xs ys : List Int16) :
    f.process (xs ++ ys) =
      ((f.process xs).1 ++ ((f.process xs).2.process ys).1, ((f.process xs).2.process ys).2) := by
  induction xs generalizing f with
  | nil => rfl
  | cons x xs ih => rw [List.cons_append, process_cons, process_cons, ih, List.cons_append]

theorem weights_process (xs : List Int16) : (f.process xs).2.weights = f.weights := by
  induction xs generalizing f with
  | nil => rfl
  | cons x xs ih => exact ih (f.next x.toFloat).2

theorem run_process (blocks : List (List Int16)) :
    (f.run (blocks.map .process)).1.flatten = (f.process blocks.flatten).1 := by
  induction blocks generalizing f with
  | nil => rfl
  | cons block blocks ih =>
    have hrest := ih (f.process block).2
    rw [List.flatten_cons, process_append, ← hrest]
    rfl

/-! ## What a reset leaves -/

theorem run_append (ts us : List Turn) :
    f.run (ts ++ us) = ((f.run ts).1 ++ ((f.run ts).2.run us).1, ((f.run ts).2.run us).2) := by
  induction ts generalizing f with
  | nil => rfl
  | cons t ts ih => rw [List.cons_append, run_cons, run_cons, ih, List.cons_append]

theorem length_run (ts : List Turn) : (f.run ts).1.length = ts.length := by
  induction ts generalizing f with
  | nil => rfl
  | cons t ts ih => rw [run_cons, List.length_cons, List.length_cons, ih]

theorem weights_step (t : Turn) : (f.step t).2.weights = f.weights := by
  cases t with
  | process block => exact f.weights_process block
  | reset => rfl

theorem weights_run (ts : List Turn) : (f.run ts).2.weights = f.weights := by
  induction ts generalizing f with
  | nil => rfl
  | cons t ts ih => exact (ih (f.step t).2).trans (f.weights_step t)

theorem reset_eq : f.reset = fresh f.weights := rfl

theorem outputs_blocks (blocks : List (List Int16)) (after : List Turn) :
    ((f.outputs (blocks.map .process ++ after)).take blocks.length).flatten =
      (f.process blocks.flatten).1 := by
  have hlength : (f.run (blocks.map .process)).1.length = blocks.length := by
    rw [length_run, List.length_map]
  rw [outputs, run_append, ← hlength, List.take_left, run_process]

/-- What comes out of the blocks behind a reset, put together, is what a filter that was just made gives
for all their samples in one block, whatever was done before and whatever is done after. Before the first
reset it is what the filter gives for them as it was found. A filter is made with the weights of its shelf
and with nothing heard. -/
theorem outputs_between_resets (f : LowShelf) (before after : List Turn)
    (blocks : List (List Int16)) :
    (((f.outputs (before ++ .reset :: (blocks.map .process ++ after))).drop
        (before.length + 1)).take blocks.length).flatten =
      ((fresh f.weights).process blocks.flatten).1 ∧
    ((f.outputs (blocks.map .process ++ after)).take blocks.length).flatten =
      (f.process blocks.flatten).1 ∧
    ∀ shelf rate, Shelf.filter? shelf rate = none ∨
      Shelf.filter? shelf rate = some (fresh (.ofShelf shelf rate)) := by
  refine ⟨?_, f.outputs_blocks blocks after, fun shelf rate => ?_⟩
  · have hreset : (f.run before).2.reset = fresh f.weights := by
      rw [reset_eq, weights_run]
    have hlength : ((f.run before).1 ++ [[]]).length = before.length + 1 := by
      rw [List.length_append, length_run, List.length_singleton]
    have hsplit : f.outputs (before ++ .reset :: (blocks.map .process ++ after)) =
        (f.run before).1 ++ [[]] ++ (fresh f.weights).outputs (blocks.map .process ++ after) := by
      rw [outputs, run_append, run_cons, ← hreset, List.append_assoc]
      rfl
    rw [hsplit, ← hlength, List.drop_left, outputs_blocks]
  · unfold Shelf.filter?
    split
    · exact .inl rfl
    · exact .inr rfl

end SpeechHost.Audio.LowShelf
