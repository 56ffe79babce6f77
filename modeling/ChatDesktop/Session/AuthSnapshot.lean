import ChatDesktop.Chat.MessageCache
import ChatDesktop.Session.LoginResponseStore
import ChatDesktop.Storage.StoreFiles

namespace ChatDesktop.Session.AuthFiles

open Library Library.Program Storage LocalStorage

def kUserTag : UInt32 := 1

section

variable (P : Chat.Platform)

def document (object : Json.Object) : Bytes := P.toUtf8 (P.json.compact object)

def parsed (text : Bytes) : Option Json.Object :=
  match P.json.parse (P.fromUtf8 text) with
  | some (.object object) => some object
  | _ => none

def recorded (w : World) : Except Error Json.Object :=
  match ids w.storage kUserTag with
  | [id] => do
    match ← LocalStorage.get P.crypto w id with
    | none => .error (.runtimeError "Missing auth record")
    | some value =>
      match parsed P value with
      | some object => .ok object
      | none => .error (.runtimeError "Invalid auth JSON")
  | _ => .error (.runtimeError "Invalid auth record count")

def loadSnapshot : Action Json.Object := do
  construct P.crypto {} P.appSecretKey
  Prog.read (recorded P)

def buildSnapshot (object : Json.Object) : Action Unit := do
  construct P.crypto { blockSize := 4096, durable := true } P.appSecretKey
  let _ ← LocalStorage.insert P.crypto (document P object) kUserTag
  LocalStorage.sync

def session (file : Bytes) : Option Json.Object :=
  (loadSnapshot P { storage := { opt := {} }, file := file }).1.toOption

end

variable {P : Chat.Platform} {w w' : World} {a : Store} {cont : ℕ → List ℕ} {id : ℕ} {object : Json.Object}
  {file : Bytes}

/-! ### What an open store holds -/

lemma recorded_world (w : World) : recorded P w = recorded P { storage := w.storage, file := w.file } := by
  rw [recorded, recorded]
  cases ids w.storage kUserTag with
  | nil => rfl
  | cons id is =>
    cases is with
    | nil => simp only [LocalStorage.get, getLocked_world w]
    | cons => rfl

lemma recorded_of_agrees (h : Agrees P.crypto w (Store.empty.put id (kUserTag, document P object))) :
    (recorded P w).toOption = parsed P (document P object) := by
  obtain ⟨hids, hget⟩ := ids_of_agrees_put h
  rw [recorded, hids]
  simp only [hget, bind, Except.bind]
  cases parsed P (document P object) <;> rfl

lemma inspection (P : Chat.Platform) : Inspection P.crypto (recorded P) Except.toOption none := by
  refine ⟨recorded_world, fun _ => rfl, fun w ha => ?_⟩
  rw [recorded, ids_of_agrees_empty ha]
  rfl

/-! ### Reading -/

lemma session_there (hfile : file ≠ []) :
    session P file = (planned P.crypto {} P.appSecretKey (recorded P) file).toOption := (inspection P).inside_there hfile

variable (P) in
lemma session_nil : session P [] = none := (inspection P).inside_nil

lemma toOption_loadSnapshot (hf : w.faults = none) : (loadSnapshot P w).1.toOption = session P w.file :=
  (inspection P).seen {} P.appSecretKey hf

lemma session_of_related
    (h : Related P.crypto P.appSecretKey w (Store.empty.put id (kUserTag, document P object)) cont) :
    session P w.file = parsed P (document P object) := by
  obtain ⟨w', ha, hi⟩ := (inspection P).inside_of_related h (fun _ => rfl)
  exact hi.trans (recorded_of_agrees ha)

lemma session_loadSnapshot (w : World) : session P (loadSnapshot P w).2.file = session P w.file :=
  (inspection P).inside_inspect w

lemma session_of_loadSnapshot (h : (loadSnapshot P w).1 = .ok object) : session P w.file = some object := by
  obtain hseen | ⟨e, he⟩ := (inspection P).seen_or_error {} P.appSecretKey w
  · refine hseen.symm.trans ?_
    change (loadSnapshot P w).1.toOption = some object
    rw [h]
    rfl
  · cases h.symm.trans he

lemma parsed_of_recorded (h : recorded P w = .ok object) : ∃ text, parsed P text = some object := by
  rw [recorded] at h
  split at h
  · rename_i id _
    cases hg : LocalStorage.get P.crypto w id with
    | error e =>
      rw [hg] at h
      cases h
    | ok value =>
      rw [hg] at h
      cases value with
      | none => cases h
      | some value =>
        simp only [bind, Except.bind] at h
        cases hp : parsed P value with
        | none =>
          rw [hp] at h
          cases h
        | some object' =>
          rw [hp] at h
          cases h
          exact ⟨value, hp⟩
  · cases h

lemma parsed_of_session (h : session P file = some object) : ∃ text, parsed P text = some object := by
  by_cases hfile : file = []
  · rw [hfile, session_nil] at h
    cases h
  · rw [session_there hfile, planned] at h
    cases hp : (openPlan P.crypto {} P.appSecretKey file).1 with
    | error e =>
      rw [hp] at h
      cases h
    | ok s =>
      rw [hp] at h
      cases hr : recorded P { storage := s, file := (openPlan P.crypto {} P.appSecretKey file).2 } with
      | error e =>
        simp only [bind, Except.bind, hr] at h
        cases h
      | ok object' =>
        simp only [bind, Except.bind, hr] at h
        cases h
        exact parsed_of_recorded hr

/-! ### Writing -/

lemma session_of_buildSnapshot (hfile : w.file = []) (h : buildSnapshot P object w = (.ok (), w')) :
    session P w'.file = parsed P (document P object) := by
  obtain ⟨id, cont, hr⟩ := related_of_build (by decide) (by decide) (show kUserTag ≠ kDirTag by decide) hfile h
  exact session_of_related hr

def Short (P : Chat.Platform) (object : Json.Object) : Prop := (document P object).length < 2 ^ 50

lemma buildSnapshot_short (hfile : w.file = []) (hf : w.faults = none) (hshort : Short P object) :
    ∃ w', buildSnapshot P object w = (.ok (), w') := by
  obtain ⟨w₁, hc, hwf, -, -, -, hf₁, -, hnblocks, hbs⟩ := construct_new (C := P.crypto) P.appSecretKey
    (show 128 ≤ ({ blockSize := 4096, durable := true } : Options).blockSize by decide) (by decide) hfile hf
  have hroom : (insertStart w₁.storage (document P object)).nblocks * w₁.storage.bs + w₁.storage.bs ≤ maxOffset := by
    have hchunks : chunks w₁.storage (document P object).length ≤ (document P object).length + 1 := by
      refine max_le (Nat.succ_le_succ (Nat.zero_le _)) (Nat.div_le_of_le_mul ?_)
      have hle := Nat.le_mul_of_pos_left (document P object).length hwf.cap_pos
      rw [Nat.mul_succ]
      omega
    have hbound : (document P object).length < 2 ^ 50 := hshort
    rw [insertStart_eq, hnblocks, hbs]
    simp only [maxOffset]
    omega
  obtain ⟨w₂, hi, hd⟩ | ⟨e, k, w₂, -, hd⟩ := hwf.insertLocked_spec (document P object) kUserTag
  · have hopen : (inserted w₁.storage (document P object) kUserTag).opened = true := by
      rw [inserted, insertStart_eq]
      exact hwf.opened
    have hins : LocalStorage.insert P.crypto (document P object) kUserTag w₁ =
        (.ok ((insertIds w₁.storage (document P object)).getD 0 0),
          w₂.put (inserted w₁.storage (document P object) kUserTag)) := by
      rw [LocalStorage.insert, get_bind_apply, if_neg (by decide), hwf.opened, Bool.not_true, if_neg (by decide), hi]
    rw [buildSnapshot, bind_ok hc, bind_ok hins, LocalStorage.sync, get_bind_apply, World.put_storage, hopen,
      Bool.not_true, if_neg (by decide), synceFd, fileOp]
    have hnone : (w₂.put (inserted w₁.storage (document P object) kUserTag)).faults = none := hd.faults hf₁
    rw [hnone]
    exact ⟨_, rfl⟩
  · have hrange := hd.not_inRange hf₁
    rw [World.put_storage, insertStart_bs] at hrange
    exact absurd (hwf.insert_inRange _ kUserTag hroom) hrange

end ChatDesktop.Session.AuthFiles
