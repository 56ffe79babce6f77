import ChatDesktop.Storage.Snapshot
import ChatDesktop.Storage.Trimming

namespace ChatDesktop.Storage

open Library Library.Program LocalStorage

section

variable (C : Crypto) (opt : Options) (pw : Bytes) {α β : Type} (find : World → Except Error α) (see : Except Error α → β)

def inspect : Action α := do
  construct C opt pw
  Prog.read find

def inside (file : Bytes) : β := see (inspect C opt pw find { storage := { opt := opt }, file := file }).1

/-- What is found depends on the store alone; a store without records is seen as one that cannot be read. -/
structure Inspection (nothing : β) : Prop where
  world : ∀ w, find w = find { storage := w.storage, file := w.file }
  error : ∀ e, see (.error e) = nothing
  empty : ∀ w, Agrees C w .empty → see (find w) = nothing

def planned (file : Bytes) : Except Error α :=
  (openPlan C opt pw file).1 >>= fun s => find { storage := s, file := (openPlan C opt pw file).2 }

def lastRecord (tag : UInt32) (w : World) : Except Error (Option Bytes) :=
  match (ids w.storage tag).getLast? with
  | none => .ok none
  | some id => LocalStorage.get C w id

def build (data : Bytes) (tag : UInt32) : Action Unit := do
  construct C opt pw
  let _ ← LocalStorage.insert C data tag
  LocalStorage.sync

end

variable {C : Crypto} {opt : Options} {pw : Bytes} {α β : Type} {find : World → Except Error α} {see : Except Error α → β}
  {nothing : β} {w w' : World} {a : Store} {cont : ℕ → List ℕ} {file : Bytes}

/-! ### One record -/

lemma eq_singleton {id : ℕ} {is : List ℕ} (hsorted : is.Pairwise (· < ·)) (h : ∀ i, i ∈ is ↔ i = id) : is = [id] := by
  cases is with
  | nil => exact absurd ((h id).mpr rfl) List.not_mem_nil
  | cons i is =>
    obtain rfl := (h i).mp List.mem_cons_self
    cases is with
    | nil => rfl
    | cons j is =>
      obtain rfl := (h j).mp (List.mem_cons_of_mem _ List.mem_cons_self)
      exact absurd (List.rel_of_pairwise_cons hsorted List.mem_cons_self) (lt_irrefl _)

lemma ids_of_agrees_put {id : ℕ} {tag : UInt32} {data : Bytes} (h : Agrees C w (Store.empty.put id (tag, data))) :
    ids w.storage tag = [id] ∧ LocalStorage.get C w id = .ok (some data) := by
  obtain ⟨hsorted, hmem⟩ := h.ids tag
  have hrec : (Store.empty.put id (tag, data)).record id = some (tag, data) := Function.update_self ..
  refine ⟨eq_singleton hsorted (fun i => (hmem i).trans ⟨fun ⟨data, hd⟩ => ?_, ?_⟩), h.get id _ _ hrec⟩
  · by_contra hne
    simp [Store.put, Store.empty, Function.update_of_ne hne] at hd
  · rintro rfl
    exact ⟨_, hrec⟩

lemma related_of_build {data : Bytes} {tag : UInt32} (hlo : 128 ≤ opt.blockSize)
    (hhi : opt.blockSize ≤ 2 ^ 20) (htag : tag ≠ kDirTag) (hfile : w.file = [])
    (h : build C opt pw data tag w = (.ok (), w')) :
    ∃ id cont, Related C pw w' (Store.empty.put id (tag, data)) cont := by
  rw [build] at h
  obtain ⟨_, w₁, hc, h⟩ := bind_ok_iff.mp h
  have h₁ := related_created hlo hhi hfile hc
  obtain ⟨id, w₂, hi, h⟩ := bind_ok_iff.mp h
  obtain ⟨id', w₂', cont', hi', -, h₂⟩ | ⟨e, w₂', hi', -⟩ := h₁.insert_spec data htag
  · obtain ⟨rfl, rfl⟩ : id = id' ∧ w₂ = w₂' := by
      have he := Prod.mk.inj (hi.symm.trans hi')
      exact ⟨Except.ok.inj he.1, he.2⟩
    obtain ⟨w₃, hs, h₃⟩ | ⟨e, w₃, hs, -⟩ := h₂.sync_spec
    · obtain rfl : w' = w₃ := (Prod.mk.inj (h.symm.trans hs)).2
      exact ⟨id, cont', h₃⟩
    · cases h.symm.trans hs
  · cases hi.symm.trans hi'

lemma lastRecord_world {tag : UInt32} (w : World) :
    lastRecord C tag w = lastRecord C tag { storage := w.storage, file := w.file } := by
  rw [lastRecord, lastRecord]
  cases (ids w.storage tag).getLast? with
  | none => rfl
  | some id => simp only [LocalStorage.get, getLocked_world w]

lemma Related.namesFit (h : Related C pw w a cont) (hroots : ∀ n, a.root n = none) : NamesFit w.storage.roots := by
  have hempty : w.storage.roots = .empty :=
    SortedMap.eq_empty_iff.mpr (fun n => (h.agrees.root n).trans (hroots n))
  rw [hempty]
  exact ⟨by decide, fun n i hn => by simp at hn⟩

/-! ### A file that is there -/

lemma ids_of_agrees_empty (h : Agrees C w .empty) (tag : UInt32) : ids w.storage tag = [] := by
  refine List.eq_nil_iff_forall_not_mem.mpr (fun i hi => ?_)
  obtain ⟨data, hd⟩ := ((h.ids tag).2 i).mp hi
  cases hd

lemma Inspection.there (h : Inspection C find see nothing) (opt : Options) (pw : Bytes) (hfile : w.file ≠ []) :
    (∃ s f, inspect C opt pw find w = (planned C opt pw find w.file, ⟨s, (openPlan C opt pw w.file).2, w.draws, f⟩)) ∨
      w.faults = some 0 ∧ ∃ s, inspect C opt pw find w = (.error ftruncateFailed, ⟨s, w.file, w.draws, none⟩) := by
  obtain ⟨s, f, hc, hs, -⟩ | ⟨hf, s, hc⟩ := construct_there C pw opt hfile
  · refine Or.inl ⟨s, f, ?_⟩
    cases hp : (openPlan C opt pw w.file).1 with
    | error e =>
      rw [hp] at hc
      rw [inspect, bind_error hc, planned, hp]
      rfl
    | ok t =>
      obtain rfl := hs t hp
      rw [hp] at hc
      rw [inspect, bind_ok hc, planned, hp, read_apply, h.world]
      rfl
  · exact Or.inr ⟨hf, s, by rw [inspect, bind_error hc]⟩

lemma Inspection.inside_there (h : Inspection C find see nothing) (hfile : file ≠ []) :
    inside C opt pw find see file = see (planned C opt pw find file) := by
  obtain ⟨s, f, hw⟩ | ⟨hf, -⟩ := h.there (w := { storage := { opt := opt }, file := file }) opt pw hfile
  · rw [inside, hw]
  · cases hf

lemma Inspection.inside_opened (h : Inspection C find see nothing) (hfile : file ≠ []) :
    inside C opt pw find see (openPlan C opt pw file).2 = inside C opt pw find see file := by
  rw [h.inside_there (openPlan_ne_nil hfile), h.inside_there hfile, planned, planned, openPlan_again]

/-! ### A new file -/

lemma construct_unfit (C : Crypto) (pw : Bytes) (hfile : w.file = []) (hopt : opt.blockSize < 128 ∨ 2 ^ 20 < opt.blockSize) :
    ∃ e s, construct C opt pw w = (.error e, w.put s) := by
  rw [construct_empty hfile]
  have hthrow : createHeader C pw (w.put { opt := opt, opened := true }) =
      (.error (.invalidArgument "block_size must be between 128 and 1048576"), w.put { opt := opt, opened := true }) := by
    rw [createHeader, get_bind_apply]
    exact congrFun (if_pos hopt) _
  exact ⟨_, _, bind_error hthrow⟩

lemma fits_of_construct (hfile : w.file = []) (h : construct C opt pw w = (.ok (), w')) :
    128 ≤ opt.blockSize ∧ opt.blockSize ≤ 2 ^ 20 := by
  by_contra hopt
  obtain ⟨e, s, he⟩ := construct_unfit C pw hfile (show opt.blockSize < 128 ∨ 2 ^ 20 < opt.blockSize by omega)
  cases h.symm.trans he

lemma Inspection.nothing_new (h : Inspection C find see nothing) (hfile : w.file = []) :
    see (inspect C opt pw find w).1 = nothing := by
  rw [inspect, bind_apply]
  rcases hc : construct C opt pw w with ⟨e | u, w'⟩
  · exact h.error e
  · obtain ⟨hlo, hhi⟩ := fits_of_construct hfile hc
    exact h.empty w' (related_created hlo hhi hfile hc).agrees

lemma Inspection.inside_nil (h : Inspection C find see nothing) : inside C opt pw find see [] = nothing :=
  h.nothing_new rfl

lemma Inspection.seen (h : Inspection C find see nothing) (opt : Options) (pw : Bytes) (hf : w.faults = none) :
    see (inspect C opt pw find w).1 = inside C opt pw find see w.file := by
  by_cases hfile : w.file = []
  · rw [hfile, h.inside_nil]
    exact h.nothing_new hfile
  · obtain ⟨s, f, hw⟩ | ⟨hsome, -⟩ := h.there opt pw hfile
    · rw [hw, h.inside_there hfile]
    · cases hf.symm.trans hsome

lemma Inspection.inside_of_reopen (h : Inspection C find see nothing)
    (hw : (∃ w', reopen C pw opt w = (.ok (), w') ∧ Agrees C w' .empty) ∨ ∃ e w', reopen C pw opt w = (.error e, w')) :
    inside C opt pw find see w.file = nothing := by
  have hseen : see (inspect C opt pw find { w with faults := none }).1 = inside C opt pw find see w.file :=
    h.seen (w := { w with faults := none }) opt pw rfl
  rw [← hseen, inspect]
  obtain ⟨w', hw', ha⟩ | ⟨e, w', hw'⟩ := hw
  · have hc : construct C opt pw { w with faults := none } = (.ok (), w') := hw'
    rw [bind_ok hc, read_apply]
    exact h.empty w' ha
  · have hc : construct C opt pw { w with faults := none } = (.error e, w') := hw'
    rw [bind_error hc]
    exact h.error e

lemma Inspection.inside_of_related (h : Inspection C find see nothing) (hr : Related C pw w a cont)
    (hroots : ∀ n, a.root n = none) :
    ∃ w', Agrees C w' a ∧ inside C opt pw find see w.file = see (find w') := by
  obtain ⟨w', hw', hr', -⟩ := hr.reopen (hr.storable_iff.mpr (hr.namesFit hroots)) opt
  have hc : construct C opt pw { w with faults := none } = (.ok (), w') := hw'
  have hi : inspect C opt pw find { w with faults := none } = (find w', w') := by rw [inspect, bind_ok hc, read_apply]
  have hseen := h.seen (w := { w with faults := none }) opt pw rfl
  rw [hi] at hseen
  exact ⟨w', hr'.agrees, hseen.symm⟩

lemma inspect_file (w : World) : (inspect C opt pw find w).2.file = (construct C opt pw w).2.file := by
  rw [inspect, bind_apply]
  rcases construct C opt pw w with ⟨e | u, w'⟩ <;> rfl

/-! ### Any file -/

lemma Inspection.inside_created (h : Inspection C find see nothing) (hfile : w.file = []) :
    inside C opt pw find see (construct C opt pw w).2.file = nothing := by
  by_cases hopt : 128 ≤ opt.blockSize ∧ opt.blockSize ≤ 2 ^ 20
  · obtain ⟨hlo, hhi⟩ := hopt
    cases hf : w.faults with
    | none =>
      obtain ⟨w', hw', -⟩ := construct_new (C := C) pw hlo hhi hfile hf
      obtain ⟨w₁, ha, hi⟩ := h.inside_of_related (related_new hlo hhi hfile hf hw') (fun _ => rfl)
      rw [hw', hi]
      exact h.empty w₁ ha
    | some k =>
      have hcreation : (construct C opt pw w).2 = creation C pw opt k w := by rw [creation, World.arm, ← hf]
      rw [hcreation]
      by_cases hk : k = 1
      · obtain ⟨f, hone⟩ := creation_one (C := C) pw hlo hhi hfile
        rw [hk, hone]
        exact h.inside_of_reopen (Or.inr (headed_fails pw hlo hhi f))
      · exact h.inside_of_reopen (Or.inl ((creation_opens_iff hlo hhi hfile k).mpr hk))
  · obtain ⟨e, s, he⟩ := construct_unfit C pw hfile (show opt.blockSize < 128 ∨ 2 ^ 20 < opt.blockSize by omega)
    rw [he]
    exact hfile.symm ▸ h.inside_nil

lemma Inspection.inside_construct (h : Inspection C find see nothing) (w : World) :
    inside C opt pw find see (construct C opt pw w).2.file = inside C opt pw find see w.file := by
  by_cases hfile : w.file = []
  · rw [h.inside_created hfile, hfile, h.inside_nil]
  · obtain ⟨s, f, hc, -⟩ | ⟨-, s, hc⟩ := construct_there C pw opt hfile
    · rw [hc]
      exact h.inside_opened hfile
    · rw [hc]

lemma Inspection.inside_inspect (h : Inspection C find see nothing) (w : World) :
    inside C opt pw find see (inspect C opt pw find w).2.file = inside C opt pw find see w.file := by
  rw [inspect_file, h.inside_construct]

lemma Inspection.seen_or_error (h : Inspection C find see nothing) (opt : Options) (pw : Bytes) (w : World) :
    see (inspect C opt pw find w).1 = inside C opt pw find see w.file ∨ ∃ e, (inspect C opt pw find w).1 = .error e := by
  by_cases hfile : w.file = []
  · rw [h.nothing_new hfile, hfile, h.inside_nil]
    exact .inl rfl
  · obtain ⟨s, f, hw⟩ | ⟨-, s, hw⟩ := h.there opt pw hfile
    · rw [hw, h.inside_there hfile]
      exact .inl rfl
    · rw [hw]
      exact .inr ⟨_, rfl⟩

end ChatDesktop.Storage
