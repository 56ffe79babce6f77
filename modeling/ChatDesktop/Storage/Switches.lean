import ChatDesktop.Storage.SetPath

namespace ChatDesktop.Storage.Switching

open Library Library.Program LocalStorage

structure Found where
  record : ℕ → Option (Except Error (Option Bytes))
  tagged : UInt32 → List ℕ
  root : Bytes → Option ℕ

def Found.nothing : Found where
  record _ := none
  tagged _ := []
  root _ := none

/-- A use of the store; all that only look are `read`. -/
inductive Request
  | perform (op : Op)
  | sync
  | read

inductive Reply
  | outcome (out : Outcome)
  | synced
  | seen (found : Found) (count : ℕ)

structure Call where
  faults : Option ℕ := none
  request : Request

inductive Event
  | setPath (o : Opening) (path pw : Bytes)
  | call (k : Call)

section

variable (C : Crypto) (opt : Options)

def survey (w : World) : Found where
  record id := if hasRecord w.storage id then some (LocalStorage.get C w id) else none
  tagged := ids w.storage
  root := LocalStorage.root w.storage

def shown : Except Error Found → Found
  | .ok found => found
  | .error _ => .nothing

def contents (pw : Bytes) (file : Option Bytes) : Found :=
  inside C opt pw (fun w => .ok (survey C w)) shown (file.getD [])

def Request.run : Request → Action Reply
  | .perform op => fun w => (.ok (.outcome (step C op w).1), (step C op w).2)
  | .sync => do
    LocalStorage.sync
    pure .synced
  | .read => Prog.read (fun w => .ok (.seen (survey C w) (recordCount w.storage)))

def Call.run (k : Call) : StoresAction Reply := use k.faults (k.request.run C)

def next (c : Stores) : Event → Stores
  | .setPath o path pw => (setPath C o path pw c).2
  | .call k => (k.run C c).2

def after (c : Stores) (es : List Event) : Stores := es.foldl (next C) c

def told : List Call → Stores → List (Except Error Reply)
  | [], _ => []
  | k :: ks, c => (k.run C c).1 :: told ks (k.run C c).2

end

/-! ### What a switch should do -/

/-- `c'` is the object of `c`, in the same file. With the same random bytes its calls give the same. -/
structure Unswitched (C : Crypto) (c c' : Stores) : Prop where
  fd : c'.fd = c.fd
  storage : c'.storage = c.storage
  file : ∀ q, c.fd = some q → c'.files q = c.files q
  told : ∀ ks, told C ks { c' with draws := c.draws } = told C ks c

/-- A file that is not empty keeps its bytes, but for blocks cut off at its end. -/
def Spared (C : Crypto) (opt : Options) (pw : Bytes) (file file' : Option Bytes) : Prop :=
  ∀ bytes, file = some bytes → bytes ≠ [] →
    ∃ bytes', file' = some bytes' ∧ (bytes' = bytes ∨ CutOff C opt pw bytes bytes')

structure Consistent (opt : Options) (c : Stores) : Prop where
  options : c.storage.opt = opt
  there : ∀ path, c.fd = some path → (c.files path).isSome = true

variable {C : Crypto} {opt : Options} {c c' d : Stores} {o : Opening} {path pw q : Bytes} {w w' : World}

/-! ### Calls -/

lemma use_none {α : Type} {p : Action α} (h : c.fd = none) (faults : Option ℕ) :
    use faults p c = ((p { storage := c.storage, draws := c.draws, faults := faults }).1,
      { c with storage := (p { storage := c.storage, draws := c.draws, faults := faults }).2.storage
               draws := (p { storage := c.storage, draws := c.draws, faults := faults }).2.draws }) := by
  rw [use, h]

lemma use_some {α : Type} {p : Action α} (h : c.fd = some path) (faults : Option ℕ) :
    use faults p c = ((p (c.world path c.storage faults)).1,
      c.becomes path (p (c.world path c.storage faults)).2) := by
  rw [use, h]

lemma request_opt (r : Request) (h : w.storage.opt = opt) : (r.run C w).2.storage.opt = opt := by
  cases r with
  | perform op => exact KeepsOpt.step op h
  | sync => exact KeepsOpt.bind .sync (fun _ => .pure _) w h
  | read => exact h

lemma Consistent.call (h : Consistent opt c) (k : Call) : Consistent opt (k.run C c).2 := by
  rw [Call.run]
  cases hfd : c.fd with
  | none =>
    rw [use_none hfd]
    refine ⟨request_opt k.request h.options, fun path hp => ?_⟩
    cases hfd.symm.trans hp
  | some path =>
    rw [use_some hfd]
    refine ⟨request_opt k.request h.options, fun q hq => ?_⟩
    obtain rfl := Option.some.inj (hfd.symm.trans hq)
    exact (congrArg Option.isSome (c.keep_self _)).trans rfl

structure Alike (c d : Stores) : Prop where
  fd : c.fd = d.fd
  storage : c.storage = d.storage
  draws : c.draws = d.draws
  file : ∀ q, d.fd = some q → c.files q = d.files q

lemma Alike.call (h : Alike c d) (k : Call) : (k.run C c).1 = (k.run C d).1 ∧ Alike (k.run C c).2 (k.run C d).2 := by
  rw [Call.run]
  cases hfd : d.fd with
  | none =>
    rw [use_none hfd, use_none (h.fd.trans hfd), h.storage, h.draws]
    exact ⟨rfl, h.fd, rfl, rfl, h.file⟩
  | some path =>
    have hworld : c.world path c.storage k.faults = d.world path d.storage k.faults := by
      rw [Stores.world, Stores.world, h.file path hfd, h.storage, h.draws]
    rw [use_some hfd, use_some (h.fd.trans hfd), hworld]
    refine ⟨rfl, h.fd, rfl, rfl, fun q hq => ?_⟩
    obtain rfl := Option.some.inj (hfd.symm.trans hq)
    exact (c.keep_self _).trans (d.keep_self _).symm

lemma Alike.told (h : Alike c d) (ks : List Call) : told C ks c = told C ks d := by
  induction ks generalizing c d with
  | nil => rfl
  | cons k ks ih =>
    obtain ⟨hreply, hnext⟩ := h.call (C := C) k
    rw [Switching.told, Switching.told, hreply, ih hnext]

/-! ### Switches -/

lemma synceFd_apply (w : World) : ∃ r f, synceFd w = (r, { w with faults := f }) := by
  rw [synceFd, LocalStorage.fileOp]
  rcases w.faults with _ | _ | k
  · exact ⟨_, _, rfl⟩
  · exact ⟨_, _, rfl⟩
  · exact ⟨_, _, rfl⟩

lemma replacement_cases (C : Crypto) (opt : Options) (pw : Bytes) (opened : Bool) (w : World) :
    (∃ e f, replacement C opt pw opened w = (.error e, { (construct C opt pw w).2 with faults := f })) ∨
      (construct C opt pw w).1 = .ok () ∧
        ∃ f, replacement C opt pw opened w = (.ok (), { (construct C opt pw w).2 with faults := f }) := by
  rw [replacement]
  rcases hc : construct C opt pw w with ⟨e | u, w₁⟩
  · exact .inl ⟨e, w₁.faults, bind_error hc⟩
  · rw [bind_ok hc, Prog.when]
    split_ifs
    · obtain ⟨r, f, hs⟩ := synceFd_apply w₁
      rw [hs]
      cases r with
      | error e => exact .inl ⟨e, f, rfl⟩
      | ok u => exact .inr ⟨rfl, f, rfl⟩
    · exact .inr ⟨rfl, w₁.faults, rfl⟩

def before (opt : Options) (c : Stores) (o : Opening) (path : Bytes) : World := c.world path { opt := opt } o.faults

lemma setPath_current (hfd : c.fd = some path) (hsome : (c.files path).isSome = true) :
    (setPath C o path pw c).2 = c := by
  rw [setPath, if_pos ⟨hfd, hsome⟩]

lemma setPath_refused {e : Error} (hfd : c.fd ≠ some path) (ho : o.refused = some e) :
    setPath C o path pw c = (.error e, c) := by
  rw [setPath, if_neg (fun h => hfd h.1), ho]

lemma setTo_eq (h : w.storage.opt = c.storage.opt) :
    c.setTo path w = { c.becomes path w with fd := some path } := by
  rw [Stores.setTo, ← h]
  rfl

lemma setPath_cases (C : Crypto) (pw : Bytes) (h : Consistent opt c) (hfd : c.fd ≠ some path) (ho : o.refused = none) :
    (∃ e, setPath C o path pw c = (.error e, c.keep path (construct C opt pw (before opt c o path)).2)) ∨
      (construct C opt pw (before opt c o path)).1 = .ok () ∧
        setPath C o path pw c = (.ok (), { c.becomes path (construct C opt pw (before opt c o path)).2 with
          fd := some path }) := by
  rw [setPath, if_neg (fun hs => hfd hs.1), ho, h.options]
  dsimp only
  obtain ⟨e, f, hr⟩ | ⟨hc, f, hr⟩ := replacement_cases C opt pw c.fd.isSome (before opt c o path)
  · rw [← before, hr]
    exact .inl ⟨e, rfl⟩
  · rw [← before, hr]
    have hopt : (construct C opt pw (before opt c o path)).2.storage.opt = c.storage.opt :=
      (construct_opt C opt pw _).trans h.options.symm
    exact .inr ⟨hc, Prod.ext rfl (setTo_eq hopt)⟩

lemma Unswitched.refl (C : Crypto) (c : Stores) : Unswitched C c c := ⟨rfl, rfl, fun _ _ => rfl, fun _ => rfl⟩

lemma Unswitched.keep (hfd : c.fd ≠ some path) (w : World) : Unswitched C c (c.keep path w) := by
  have hfile : ∀ q, c.fd = some q → (c.keep path w).files q = c.files q :=
    fun q hq => c.keep_other w (fun he => hfd (he ▸ hq))
  exact ⟨rfl, rfl, hfile, Alike.told ⟨rfl, rfl, rfl, hfile⟩⟩

lemma survey_world (w : World) : survey C w = survey C { storage := w.storage, file := w.file } := by
  simp only [survey, LocalStorage.get, getLocked_world w]

lemma inspection (C : Crypto) : Inspection C (fun w => .ok (survey C w)) shown .nothing where
  world w := congrArg Except.ok (survey_world w)
  error _ := rfl
  empty w h := by
    have hids := ids_of_agrees_empty h
    have hrecord : ∀ id, hasRecord w.storage id = false := h.live
    have hroot : ∀ name, LocalStorage.root w.storage name = none := h.root
    simp only [shown, survey, Found.nothing, Found.mk.injEq, hrecord]
    exact ⟨rfl, funext hids, funext hroot⟩

lemma Spared.refl (C : Crypto) (opt : Options) (pw : Bytes) (file : Option Bytes) : Spared C opt pw file file :=
  fun bytes h _ => ⟨bytes, h, .inl rfl⟩

lemma Consistent.setPath (h : Consistent opt c) (o : Opening) (path pw : Bytes) :
    Consistent opt (setPath C o path pw c).2 := by
  by_cases hfd : c.fd = some path
  · rwa [setPath_current hfd (h.there path hfd)]
  · cases ho : o.refused with
    | some e => rwa [setPath_refused hfd ho]
    | none =>
      obtain ⟨e, hset⟩ | ⟨hc, hset⟩ := setPath_cases C pw h hfd ho
      · rw [hset]
        refine ⟨h.options, fun q hq => ?_⟩
        have hne : q ≠ path := by
          rintro rfl
          exact hfd hq
        exact (congrArg Option.isSome (c.keep_other _ hne)).trans (h.there q hq)
      · rw [hset]
        refine ⟨construct_opt C opt pw _, fun q hq => ?_⟩
        obtain rfl := Option.some.inj hq
        exact (congrArg Option.isSome (c.keep_self _)).trans rfl

lemma Consistent.after (h : Consistent opt c) (es : List Event) : Consistent opt (after C c es) := by
  induction es generalizing c with
  | nil => exact h
  | cons e es ih =>
    cases e with
    | setPath o path pw => exact ih (h.setPath o path pw)
    | call k => exact ih (h.call k)

def perform (op : Op) : Call := { request := .perform op }

def freed : Stores := after .transparent { storage := { opt := smallOptions } }
  (.setPath {} [0x61] [] ::
    [.insert [] 1, .insert [] 1, .insert [] 1, .remove 1, .remove 2].map (fun op => .call (perform op)))

def reopened : Stores :=
  { freed.becomes [0x61] (construct .transparent smallOptions [] (before smallOptions freed {} [0x61])).2 with
    fd := some [0x61] }

end ChatDesktop.Storage.Switching
