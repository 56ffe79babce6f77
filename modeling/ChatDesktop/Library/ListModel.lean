import Mathlib.Data.List.InsertIdx
import Mathlib.Data.List.TakeDrop
import Mathlib.Tactic.Common

namespace ChatDesktop.Library.ListModel

/-- Between rows, `ρ` names the parts of a row; no parts stand for all of them. -/
inductive Change (ρ : Type)
  | insertRows (first last : ℕ)
  | moveRows (first last destination : ℕ)
  | removeRows (first last : ℕ)
  | resetModel
  | dataChanged (row : ℕ) (roles : List ρ)
  deriving DecidableEq

structure Announcement (α τ ρ : Type) where
  change : Change ρ
  before : List α
  after : List α
  now : τ
  deriving DecidableEq

variable {α β τ ρ : Type}

def Change.Valid (n : ℕ) : Change ρ → Prop
  | insertRows first last => first ≤ last ∧ first ≤ n
  | moveRows first last destination =>
    first ≤ last ∧ last < n ∧ destination ≤ n ∧ (destination < first ∨ last + 1 < destination)
  | removeRows first last => first ≤ last ∧ last < n
  | resetModel => True
  | dataChanged row _ => row < n

/-- The rows from `first` to `last` taken out and put before the row `destination`. -/
def moveRows (first last destination : ℕ) (l : List α) : List α :=
  let rest := l.take first ++ l.drop (last + 1)
  let at_ := if destination ≤ first then destination else destination - (last + 1 - first)
  rest.take at_ ++ (l.drop first).take (last + 1 - first) ++ rest.drop at_

def follow (view : List (α × τ)) (a : Announcement α τ ρ) : List (α × τ) :=
  match a.change with
  | .insertRows first last =>
    view.take first ++ ((a.after.drop first).take (last + 1 - first)).map (·, a.now) ++ view.drop first
  | .moveRows first last destination => moveRows first last destination view
  | .removeRows first last => view.take first ++ view.drop (last + 1)
  | .resetModel => a.after.map (·, a.now)
  | .dataChanged row roles =>
    match a.after[row]? with
    | some r => view.modify row (fun old => (r, if roles.isEmpty then a.now else old.2))
    | none => view

/-- The element at `source` taken out and put at `destination`. -/
def move (source destination : ℕ) (l : List α) : List α :=
  match l[source]? with
  | some a => (l.eraseIdx source).insertIdx destination a
  | none => l

lemma map_move (f : α → β) (source destination : ℕ) (l : List α) :
    (move source destination l).map f = move source destination (l.map f) := by
  unfold move
  rw [List.getElem?_map]
  cases l[source]? with
  | none => rfl
  | some a => simp [List.map_insertIdx, List.eraseIdx_map]

lemma map_modify {f : α → α} {g : α → β} {h : β → β} (hfg : ∀ a, g (f a) = h (g a)) (i : ℕ) (l : List α) :
    (l.modify i f).map g = (l.map g).modify i h := by
  induction l generalizing i with
  | nil => simp
  | cons a l ih =>
    cases i with
    | zero => simp [hfg]
    | succ i => simp [ih]

lemma insertIdx_eq_take_drop {n : ℕ} {l : List α} (h : n ≤ l.length) (a : α) :
    l.insertIdx n a = l.take n ++ a :: l.drop n := by
  induction l generalizing n with
  | nil =>
    obtain rfl := Nat.le_zero.mp h
    rfl
  | cons b l ih =>
    cases n with
    | zero => rfl
    | succ n => simp [List.insertIdx_succ_cons, ih (Nat.le_of_succ_le_succ h)]

lemma move_eq_moveRows {source destination : ℕ} {l : List α} (hd : destination ≤ source) (hs : source < l.length) :
    move source destination l = moveRows source source destination l := by
  have hlen : destination ≤ (l.eraseIdx source).length := by
    rw [List.length_eraseIdx_of_lt hs]
    omega
  simp only [move, List.getElem?_eq_getElem hs, moveRows, if_pos hd]
  rw [insertIdx_eq_take_drop hlen, List.eraseIdx_eq_take_drop_succ, Nat.add_sub_cancel_left,
    List.take_one_drop_eq_of_lt_length hs]
  simp

lemma take_move {source destination : ℕ} {l : List α} (hd : destination ≤ source) (hs : source < l.length) :
    (move source destination l).take destination = l.take destination := by
  have hlen : destination ≤ (l.eraseIdx source).length := by
    rw [List.length_eraseIdx_of_lt hs]
    omega
  simp only [move, List.getElem?_eq_getElem hs]
  rw [insertIdx_eq_take_drop hlen, List.take_left' (by rw [List.length_take, Nat.min_eq_left hlen]),
    List.eraseIdx_eq_take_drop_succ, List.take_append_of_le_length (by rw [List.length_take]; omega),
    List.take_take, Nat.min_eq_left hd]

lemma length_move {source destination : ℕ} {l : List α} (hd : destination ≤ source) (hs : source < l.length) :
    (move source destination l).length = l.length := by
  have hlen : (l.eraseIdx source).length = l.length - 1 := List.length_eraseIdx_of_lt hs
  simp only [move, List.getElem?_eq_getElem hs]
  rw [List.length_insertIdx, if_pos (by omega)]
  omega

lemma move_append {shown left : List α} {i : ℕ} {a : α} (h : left[i]? = some a) :
    move (shown.length + i) shown.length (shown ++ left) = shown ++ a :: left.eraseIdx i := by
  have hle : shown.length ≤ shown.length + i := Nat.le_add_right _ _
  have hget : (shown ++ left)[shown.length + i]? = some a := by
    rw [List.getElem?_append_right hle, Nat.add_sub_cancel_left, h]
  have herase : (shown ++ left).eraseIdx (shown.length + i) = shown ++ left.eraseIdx i := by
    rw [List.eraseIdx_append_of_length_le hle, Nat.add_sub_cancel_left]
  have hlen : shown.length ≤ (shown ++ left.eraseIdx i).length := by
    rw [List.length_append]
    exact Nat.le_add_right _ _
  simp only [move, hget, herase]
  rw [insertIdx_eq_take_drop hlen, List.take_left, List.drop_left]

/-! ### What a view does -/

variable {rows new : List α} {view : List (α × τ)} {now : τ}

lemma follow_insertRows {n : ℕ} (hn : n ≤ rows.length) (hnew : new ≠ []) :
    follow view (⟨.insertRows n (n + new.length - 1), rows, rows.take n ++ new ++ rows.drop n, now⟩ :
      Announcement α τ ρ) = view.take n ++ new.map (·, now) ++ view.drop n := by
  have hpos : 0 < new.length := List.length_pos_iff.mpr hnew
  have htake : (rows.take n).length = n := by rw [List.length_take, Nat.min_eq_left hn]
  have hcount : n + new.length - 1 + 1 - n = new.length := by omega
  simp only [follow, List.append_assoc]
  rw [List.drop_left' htake, hcount, List.take_left]

lemma follow_moveRows {source destination : ℕ} {before after : List α} (hd : destination ≤ source)
    (hs : source < view.length) :
    follow view (⟨.moveRows source source destination, before, after, now⟩ : Announcement α τ ρ) =
      move source destination view :=
  (move_eq_moveRows hd hs).symm

lemma follow_dataChanged {row : ℕ} {f : α → α} {roles : List ρ} (hrows : view.map Prod.fst = rows) :
    follow view ⟨.dataChanged row roles, rows, rows.modify row f, now⟩ =
      view.modify row (fun old => (f old.1, if roles.isEmpty then now else old.2)) := by
  subst hrows
  simp only [follow, List.getElem?_modify, List.getElem?_map]
  cases hv : view[row]? with
  | none =>
    have hlen := List.getElem?_eq_none_iff.mp hv
    simp only [Option.map_none, if_true]
    rw [List.modify_eq_self hlen]
    rfl
  | some old =>
    simp only [Option.map_some, if_true]
    apply List.ext_getElem?
    intro i
    simp only [List.getElem?_modify]
    by_cases hi : row = i
    · subst hi
      simp [hv]
    · simp [hi]

end ChatDesktop.Library.ListModel
