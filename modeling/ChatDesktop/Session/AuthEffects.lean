import ChatDesktop.Session.AuthDirectory

namespace ChatDesktop.Session.AuthFiles

open Library Library.Program Storage

/-- The name in the index, if there is one and if it is valid, and of each file the session that is read from it. -/
structure Look where
  index : Option (Option Bytes)
  held : Bytes → Option (Option Json.Object)
  strewn : List (Option Json.Object)
  written : List Bytes

namespace Look

def name (v : Look) (n : Bytes) : Look := { v with index := some (some n) }

def keep (v : Look) (path : Bytes) (s : Option Json.Object) : Look :=
  { v with held := Function.update v.held path (some s), written := path :: v.written }

def drop (v : Look) (path : Bytes) : Look := { v with held := Function.update v.held path none }

def strewing (v : Look) (t : List (Option Json.Object)) : Look := { v with strewn := t }

end Look

def indexed (bytes : Bytes) : Option Bytes := if indexValid (bytes.take 33) then some (bytes.take 33) else none

section

variable (P : Chat.Platform)

def look (d : Directory) : Look where
  index := (d.files (indexPath P)).map indexed
  held path := if path = indexPath P then none else (d.files path).map (session P)
  strewn := d.temporaries.map (session P)
  written := d.written

/-- The session of the account in the index or, as long as there is no index, of the first file with a fixed name. -/
def Look.readable (v : Look) : Option Json.Object :=
  match v.index with
  | none => (((legacyPaths P).findSome? v.held).join).filter (fun object => (accountFileName P object).isSome)
  | some none => none
  | some (some name) =>
    if name = [] then none else (v.held name).join.filter (fun object => decide (accountFileName P object = some name))

/-- The names of the accounts' files are hashes, which are as good as distinct from the fixed names. -/
structure Distinct : Prop where
  hmac : ∀ secret message, 16 ≤ (P.hmac secret message).length
  account : ∀ object name, accountFileName P object = some name → name ≠ indexPath P ∧ name ∉ legacyPaths P
  index : indexPath P ∉ legacyPaths P

end

variable {P : Chat.Platform} {d : Directory} {v u : Look} {o : Outcome} {name path bytes : Bytes}
  {object : Json.Object} {s : Option Json.Object} {α : Type}

/-! ### Names -/

lemma all_isHex_hexByte (b : UInt8) : (hexByte b).all isHex = true := by
  have h : ∀ n < 256, (hexByte (UInt8.ofNat n)).all isHex = true := by decide +kernel
  have hb := h b.toNat (UInt8.toNat_lt b)
  rwa [UInt8.ofNat_toNat] at hb

lemma all_isHex_hex (bs : Bytes) : (hex bs).all isHex = true := by
  induction bs with
  | nil => rfl
  | cons b bs ih =>
    rw [hex, List.flatMap_cons, List.all_append, all_isHex_hexByte, Bool.true_and]
    exact ih

lemma length_hex (bs : Bytes) : (hex bs).length = 2 * bs.length := by
  induction bs with
  | nil => rfl
  | cons b bs ih =>
    rw [hex, List.flatMap_cons, List.length_append, List.length_cons]
    change 2 + (hex bs).length = _
    omega

lemma indexed_nil : indexed [] = some [] := rfl

lemma Distinct.hexName (hP : Distinct P) (logicalName secret : Text) :
    (Chat.FileNameHelper.hexName P logicalName secret).length = 32 ∧
      indexed (Chat.FileNameHelper.hexName P logicalName secret) =
        some (Chat.FileNameHelper.hexName P logicalName secret) := by
  rw [Chat.FileNameHelper.hexName]
  set input := Chat.FileNameHelper.macInput logicalName secret
  have hlen : (hex ((P.hmac input.1 input.2).take 16)).length = 32 := by
    rw [length_hex, List.length_take, min_eq_left (hP.hmac _ _)]
  refine ⟨hlen, ?_⟩
  rw [indexed, List.take_of_length_le (by omega), if_pos]
  rw [indexValid, hlen, all_isHex_hex]
  simp

lemma Distinct.valid (hP : Distinct P) (h : accountFileName P object = some name) :
    name.length = 32 ∧ indexed name = some name := by
  rw [accountFileName] at h
  split_ifs at h
  obtain rfl := Option.some.inj h
  exact hP.hexName _ _

lemma Distinct.indexPath_ne_nil (hP : Distinct P) : indexPath P ≠ [] := by
  intro h
  have hlen := (hP.hexName (key "active_auth") []).1
  change (indexPath P).length = 32 at hlen
  rw [h] at hlen
  cases hlen

/-! ### Changes -/

lemma look_put_index (h : indexed bytes = some name) : look P (d.put (indexPath P) bytes) = (look P d).name name := by
  simp only [look, Look.name, Directory.put, Function.update_self, Option.map_some, h, Look.mk.injEq, and_true, true_and]
  funext q
  split_ifs with hq
  · rfl
  · rw [Function.update_of_ne hq]

lemma held_update (hpath : path ≠ indexPath P) (file : Option Bytes) :
    (fun q => if q = indexPath P then none else (Function.update d.files path file q).map (session P)) =
      Function.update (look P d).held path (file.map (session P)) := by
  funext q
  by_cases hq : q = path
  · subst hq
    rw [if_neg hpath, Function.update_self, Function.update_self]
  · rw [Function.update_of_ne hq, Function.update_of_ne hq]
    rfl

lemma look_put (hpath : path ≠ indexPath P) :
    look P (d.put path bytes) = { look P d with held := Function.update (look P d).held path (some (session P bytes)) } := by
  rw [look, Directory.put]
  simp only [Function.update_of_ne hpath.symm, held_update hpath]
  rfl

lemma look_held (hpath : path ≠ indexPath P) : (look P d).held path = (d.files path).map (session P) := if_neg hpath

lemma look_put_same (hpath : path ≠ indexPath P) (hfile : d.files path = some bytes) {bytes' : Bytes}
    (h : session P bytes' = session P bytes) : look P (d.put path bytes') = look P d := by
  have hheld : (look P d).held path = some (session P bytes') := by rw [look_held hpath, hfile, h]; rfl
  rw [look_put hpath, ← hheld, Function.update_eq_self]

lemma look_remove (hpath : path ≠ indexPath P) : look P (d.remove path) = (look P d).drop path := by
  rw [look, Directory.remove]
  simp only [Function.update_of_ne hpath.symm, held_update hpath]
  rfl

lemma look_push : look P d.push = (look P d).strewing (none :: (look P d).strewn) := by
  simp only [look, Look.strewing, Directory.push, List.map_cons, session_nil]

lemma look_fill : look P (d.fill bytes) = (look P d).strewing (session P bytes :: (look P d).strewn.tail) := by
  simp only [look, Look.strewing, Directory.fill, List.map_cons, List.map_tail]

lemma look_pop : look P d.pop = (look P d).strewing (look P d).strewn.tail := by
  simp only [look, Look.strewing, Directory.pop, List.map_tail]

lemma look_leave :
    look P d.leave = (look P d).strewing ((look P d).strewn.tail ++ (look P d).strewn.take 1) := by
  simp only [look, Look.strewing, Directory.leave, List.map_append, List.map_tail, List.map_take]

lemma session_headD (d : Directory) : session P (d.temporaries.headD []) = (look P d).strewn.headD none := by
  rw [look]
  cases d.temporaries with
  | nil => exact session_nil P
  | cons t ts => rfl

lemma look_rename (hpath : path ≠ indexPath P) :
    look P (d.rename path) = ((look P d).keep path ((look P d).strewn.headD none)).strewing (look P d).strewn.tail := by
  have h : d.rename path = { d.pop.put path (d.temporaries.headD []) with written := path :: d.written } := rfl
  have hlook : look P (d.rename path) = { look P (d.pop.put path (d.temporaries.headD [])) with written := path :: d.written } := by
    rw [h]
    rfl
  rw [hlook, look_put hpath, session_headD, look_pop]
  rfl

/-! ### Steps -/

def Outcome.Effective (o : Outcome) : Prop := o = .done ∨ o = .stopsAfter

def Outcome.Stopped (o : Outcome) : Prop := o = .stops ∨ o = .stopsAfter

def first : List Outcome → Outcome
  | [] => .done
  | .done :: os => first os
  | .fails :: _ => .fails
  | _ :: _ => .stops

def Outcome.answer : Outcome → Except Halt Bool
  | .done => .ok true
  | .fails => .ok false
  | _ => .error .stopped

lemma steps_apply (os : List Outcome) (d : Directory) : steps os d = ((first os).answer, d) := by
  induction os with
  | nil => rfl
  | cons o os ih =>
    cases o with
    | done => exact ih
    | fails => rfl
    | stops => rfl
    | stopsAfter => rfl

lemma first_ne_stopsAfter (os : List Outcome) : first os ≠ .stopsAfter := by
  induction os with
  | nil => exact nofun
  | cons o os ih =>
    cases o with
    | done => exact ih
    | fails => exact nofun
    | stops => exact nofun
    | stopsAfter => exact nofun

lemma stopped_of_first {os : List Outcome} (h : first os = .stops) : ∃ x ∈ os, x.Stopped := by
  induction os with
  | nil => cases h
  | cons o os ih =>
    cases o with
    | done =>
      obtain ⟨x, hx, hs⟩ := ih h
      exact ⟨x, List.mem_cons_of_mem _ hx, hs⟩
    | fails => cases h
    | stops => exact ⟨_, List.mem_cons_self, Or.inl rfl⟩
    | stopsAfter => exact ⟨_, List.mem_cons_self, Or.inr rfl⟩

/-- How a step can end that turns `v` into `u`. -/
inductive Stepped (o : Outcome) (v u : Look) : Except Halt Bool → Look → Prop
  | done (h : o = .done) : Stepped o v u (.ok true) u
  | fails (h : o = .fails) : Stepped o v u (.ok false) v
  | stops (h : o = .stops) : Stepped o v u (.error .stopped) v
  | stopsAfter (h : o = .stopsAfter) : Stepped o v u (.error .stopped) u

lemma observed_step {f : Directory → Directory} (hf : ∀ d, look P d = v → look P (f d) = u) :
    Observed (look P) v (step o f) (Stepped o v u) := by
  intro d hd
  cases o with
  | done => exact hf d hd ▸ .done rfl
  | fails => exact hd ▸ .fails rfl
  | stops => exact hd ▸ .stops rfl
  | stopsAfter => exact hf d hd ▸ .stopsAfter rfl

lemma observed_steps (os : List Outcome) : Observed (look P) v (steps os) (Stepped (first os) v v) := by
  intro d hd
  rw [steps_apply, hd]
  cases hf : first os with
  | done => exact .done rfl
  | fails => exact .fails rfl
  | stops => exact .stops rfl
  | stopsAfter => exact .stopsAfter rfl

lemma observed_step_if {f : Directory → Directory} {p q : FileAction α} {Q : Except Halt α → Look → Prop}
    (hf : ∀ d, look P d = v → look P (f d) = u) (hdone : o = .done → Observed (look P) u p Q)
    (hfails : o = .fails → Observed (look P) v q Q) (hstops : o = .stops → Q (.error .stopped) v)
    (hstopsAfter : o = .stopsAfter → Q (.error .stopped) u) :
    Observed (look P) v (step o f >>= fun b => if b = true then p else q) Q := by
  refine Observed.bind (observed_step hf) ?_ ?_
  · rintro a w (h | h | h | h)
    · exact hdone h
    · exact hfails h
  · rintro e w (h | h | h | h)
    · exact hstops h
    · exact hstopsAfter h

lemma observed_steps_if {os : List Outcome} {p q : FileAction α} {Q : Except Halt α → Look → Prop}
    (hdone : first os = .done → Observed (look P) v p Q) (hfails : first os = .fails → Observed (look P) v q Q)
    (hstops : (∃ x ∈ os, x.Stopped) → Q (.error .stopped) v) :
    Observed (look P) v (steps os >>= fun b => if b = true then p else q) Q := by
  refine Observed.bind (observed_steps os) ?_ ?_
  · rintro a w (h | h | h | h)
    · exact hdone h
    · exact hfails h
  · rintro e w (h | h | h | h)
    · exact hstops (stopped_of_first h)
    · exact absurd h (first_ne_stopsAfter os)

lemma observed_get {f : Directory → FileAction α} {Q : Except Halt α → Look → Prop}
    (h : ∀ d, look P d = v → Observed (look P) v (f d) Q) : Observed (look P) v (Prog.get >>= f) Q := by
  intro d hd
  exact h d hd d hd

lemma observed_guarded {p : FileAction α} {fallback : α} {Q R : Except Halt α → Look → Prop}
    (h : Observed (look P) v p Q) (hok : ∀ a u, Q (.ok a) u → R (.ok a) u)
    (hthrown : ∀ u, Q (.error .thrown) u → R (.ok fallback) u)
    (hstopped : ∀ u, Q (.error .stopped) u → R (.error .stopped) u) :
    Observed (look P) v (guarded fallback p) R := by
  intro d hd
  have hh := h d hd
  rw [guarded]
  rcases hp : p d with ⟨e | a, d'⟩
  · rw [hp] at hh
    cases e with
    | thrown => exact hthrown _ hh
    | stopped => exact hstopped _ hh
  · rw [hp] at hh
    exact hok _ _ hh

/-! ### Removals -/

structure Removed (o : Outcome) (path : Bytes) (v : Look) (r : Except Halt Unit) (u : Look) : Prop where
  ends : r = .ok () ∨ r = .error .stopped
  done : o.Effective → u = v.drop path
  kept : ¬o.Effective → u = v

lemma observed_remove (hpath : path ≠ indexPath P) : Observed (look P) v (remove o path) (Removed o path v) := by
  refine Observed.bind (observed_step (u := v.drop path) (fun d hd => hd ▸ look_remove hpath)) ?_ ?_
  · rintro a u (h | h | h | h)
    · exact Observed.pure ⟨Or.inl rfl, fun _ => rfl, fun hn => absurd (Or.inl h) hn⟩
    · exact Observed.pure ⟨Or.inl rfl, (fun ho => by rcases ho with rfl | rfl <;> cases h), fun _ => rfl⟩
  · rintro e u (h | h | h | h)
    · exact ⟨Or.inr rfl, (fun ho => by rcases ho with rfl | rfl <;> cases h), fun _ => rfl⟩
    · exact ⟨Or.inr rfl, fun _ => rfl, fun hn => absurd (Or.inr h) hn⟩

structure Thinned (paths : List Bytes) (v u : Look) : Prop where
  index : u.index = v.index
  strewn : u.strewn = v.strewn
  written : u.written = v.written
  others : ∀ q, q ∉ paths → u.held q = v.held q
  held : ∀ q, u.held q = v.held q ∨ u.held q = none

lemma Thinned.refl (paths : List Bytes) (v : Look) : Thinned paths v v :=
  ⟨rfl, rfl, rfl, fun _ _ => rfl, fun _ => Or.inl rfl⟩

lemma Thinned.trans {paths paths' : List Bytes} {w : Look} (h : Thinned paths v u) (h' : Thinned paths' u w) :
    Thinned (paths ++ paths') v w := by
  refine ⟨h'.index.trans h.index, h'.strewn.trans h.strewn, h'.written.trans h.written, fun q hq => ?_, fun q => ?_⟩
  · rw [List.mem_append, not_or] at hq
    exact (h'.others q hq.2).trans (h.others q hq.1)
  · obtain hq | hq := h'.held q
    · rw [hq]
      exact h.held q
    · exact Or.inr hq

lemma thinned_drop (v : Look) (path : Bytes) : Thinned [path] v (v.drop path) := by
  refine ⟨rfl, rfl, rfl, fun q hq => Function.update_of_ne (List.ne_of_not_mem_cons hq) _ _, fun q => ?_⟩
  by_cases hq : q = path
  · exact Or.inr (hq ▸ Function.update_self ..)
  · exact Or.inl (Function.update_of_ne hq _ _)

lemma Removed.thinned {r : Except Halt Unit} (h : Removed o path v r u) : Thinned [path] v u := by
  by_cases ho : o.Effective
  · rw [h.done ho]
    exact thinned_drop v path
  · rw [h.kept ho]
    exact .refl _ _

lemma Removed.orphan {r : Except Halt Unit} (h : Removed o path v r u) : u = v ∧ ¬o.Effective ∨ u = v.drop path := by
  by_cases ho : o.Effective
  · exact Or.inr (h.done ho)
  · exact Or.inl ⟨h.kept ho, ho⟩

lemma observed_removeAll (o : Bytes → Outcome) {paths : List Bytes} (h : ∀ path ∈ paths, path ≠ indexPath P) :
    Observed (look P) v (removeAll o paths) (fun r u => (r = .ok () ∨ r = .error .stopped) ∧ Thinned paths v u) := by
  induction paths generalizing v with
  | nil => exact Observed.pure ⟨Or.inl rfl, .refl _ _⟩
  | cons path paths ih =>
    refine Observed.bind (observed_remove (h path List.mem_cons_self)) (fun _ u hu => ?_) (fun e u hu => ?_)
    · refine (ih (fun q hq => h q (List.mem_cons_of_mem _ hq))).imp (fun r w hw => ⟨hw.1, ?_⟩)
      exact hu.thinned.trans hw.2
    · have hheld := hu.thinned
      refine ⟨Or.inr (by obtain h | h := hu.ends <;> cases h; rfl), hheld.index, hheld.strewn, hheld.written, ?_, hheld.held⟩
      intro q hq
      exact hheld.others q (fun hm => hq (List.mem_singleton.mp hm ▸ List.mem_cons_self))

/-! ### The index -/

def IndexReading.outcome (o : IndexReading) : Outcome := first [o.opened, o.read]

lemma IndexReading.opened_of_done {o : IndexReading} (h : o.outcome = .done) : o.opened = .done := by
  rcases o with ⟨_ | _ | _ | _, read⟩
  · rfl
  · cases h
  · cases h
  · cases h

def IndexReading.Missed (o : IndexReading) : Prop := o.opened = .done ∧ o.read = .fails

inductive Named (o : IndexReading) (v : Look) : Except Halt (Option Bytes) → Prop
  | absent (h : v.index = none) : Named o v (.ok none)
  | named {n : Bytes} (h : v.index = some (some n)) (ho : o.outcome = .done) : Named o v (.ok (some n))
  | missed (h : v.index ≠ none) (ho : o.Missed) : Named o v (.ok (some []))
  | invalid (h : v.index = some none) : Named o v (.error .thrown)
  | closed (ho : o.opened = .fails) : Named o v (.error .thrown)
  | stopped (ho : o.outcome = .stops) : Named o v (.error .stopped)

lemma observed_readActiveName (o : IndexReading) :
    Observed (look P) v (readActiveName P o) (fun r u => u = v ∧ Named o v r) := by
  intro d hd
  have hindex : v.index = (d.files (indexPath P)).map indexed := hd ▸ rfl
  have hvalid : ∀ bytes, d.files (indexPath P) = some bytes → v.index = some (indexed bytes) := fun bytes h => by
    rw [hindex, h]
    rfl
  rw [readActiveName, get_bind_apply]
  cases hfile : d.files (indexPath P) with
  | none =>
    rw [hfile] at hindex
    exact ⟨hd, .absent hindex⟩
  | some bytes =>
    have hv := hvalid bytes hfile
    have hsome : v.index ≠ none := by rw [hv]; exact Option.some_ne_none _
    rcases o with ⟨_ | _ | _ | _, read⟩
    · rcases read with _ | _ | _ | _
      · by_cases hb : indexValid (bytes.take 33)
        · rw [indexed, if_pos hb] at hv
          have hrun : (if indexValid (bytes.take 33) then pure (some (bytes.take 33)) else Prog.throw .thrown : FileAction _) d =
              (.ok (some (bytes.take 33)), d) := by rw [if_pos hb, pure_apply]
          exact ⟨(congrArg (fun x => look P x.2) hrun).trans hd, (congrArg Prod.fst hrun).symm ▸ .named hv rfl⟩
        · rw [indexed, if_neg hb] at hv
          have hrun : (if indexValid (bytes.take 33) then pure (some (bytes.take 33)) else Prog.throw .thrown : FileAction _) d =
              (.error .thrown, d) := by rw [if_neg hb, throw_apply]
          exact ⟨(congrArg (fun x => look P x.2) hrun).trans hd, (congrArg Prod.fst hrun).symm ▸ .invalid hv⟩
      · exact ⟨hd, .missed hsome ⟨rfl, rfl⟩⟩
      · exact ⟨hd, .stopped rfl⟩
      · exact ⟨hd, .stopped rfl⟩
    · exact ⟨hd, .closed rfl⟩
    · exact ⟨hd, .stopped rfl⟩
    · exact ⟨hd, .stopped rfl⟩

def IndexWriting.outcome (o : IndexWriting) : Outcome :=
  match first [o.directory, o.opened, o.permissions, o.write] with
  | .done => o.commit
  | o => o

lemma writeActiveName_eq (o : IndexWriting) (name : Bytes) :
    writeActiveName P o name = step o.outcome (fun d => d.put (indexPath P) name) := by
  funext d
  rw [writeActiveName, bind_apply, steps_apply, IndexWriting.outcome]
  rcases hf : first [o.directory, o.opened, o.permissions, o.write] with _ | _ | _ | _
  · rfl
  · rfl
  · rfl
  · exact absurd hf (first_ne_stopsAfter _)

lemma observed_writeActiveName (o : IndexWriting) (h : indexed name = some name) :
    Observed (look P) v (writeActiveName P o name) (Stepped o.outcome v (v.name name)) := by
  rw [writeActiveName_eq]
  exact observed_step (fun d hd => hd ▸ look_put_index h)

/-! ### Snapshots -/

def StoreUse.Runs (o : StoreUse) : Prop := ¬o.opened.Stopped ∧ ∀ k, o.fault ≠ some (k, true)

lemma StoreUse.halt_of_runs {o : StoreUse} (h : o.Runs) (w : World) : o.halt w = .thrown := by
  rw [halt]
  split
  · rename_i k hk
    exact absurd hk (h.2 k)
  · rfl

lemma observed_run {o : StoreUse} {p : Action α} {put : Bytes → Directory → Directory} {Q : Except Halt α → Look → Prop}
    (hok : ∀ d w w' a, look P d = v → w.file = bytes → p w = (.ok a, w') → Q (.ok a) (look P (put w'.file d)))
    (herror : ∀ d w w' e h, look P d = v → w.file = bytes → p w = (.error e, w') → (o.Runs → h = Halt.thrown) →
      Q (.error h) (look P (put w'.file d)))
    (hclosed : ∀ h, (o.Runs → h = Halt.thrown) → Q (.error h) v) :
    Observed (look P) v (o.run p bytes put) Q := by
  refine Observed.bind (observed_step (u := v) (fun d hd => hd)) ?_ ?_
  · rintro a u (h | h | h | h)
    · refine Observed.ite (fun _ => ?_) (fun hn => absurd rfl hn)
      intro d hd
      dsimp only
      rcases hp : p { storage := { opt := {} }, file := bytes, draws := d.draws, faults := o.fault.map Prod.fst } with
        ⟨e | a, w'⟩
      · exact herror d _ w' e (o.halt w') hd rfl hp (fun hr => StoreUse.halt_of_runs hr w')
      · exact hok d _ w' a hd rfl hp
    · exact Observed.ite (fun ht => absurd ht Bool.false_ne_true) (fun _ => Observed.throw (hclosed _ (fun _ => rfl)))
  · rintro e u (h | h | h | h)
    · exact hclosed _ (fun hr => absurd (Or.inl h) hr.1)
    · exact hclosed _ (fun hr => absurd (Or.inr h) hr.1)

lemma observed_readSnapshot (o : StoreUse) (hpath : path ≠ indexPath P) :
    Observed (look P) v (readSnapshot P o path)
      (fun r u => u = v ∧ ∀ object, r = .ok object → v.held path = object.map some) := by
  refine observed_get (fun d hd => ?_)
  have hheld : v.held path = (d.files path).map (session P) := hd ▸ look_held hpath
  cases hfile : d.files path with
  | none =>
    refine Observed.pure ⟨rfl, fun object h => ?_⟩
    cases h
    rw [hheld, hfile]
    rfl
  | some bytes =>
    rw [hfile] at hheld
    have hsame : ∀ d', look P d' = v → ∀ w w' : World, w.file = bytes → (loadSnapshot P w).2 = w' →
        look P (d'.put path w'.file) = v := by
      intro d' hd' w w' hw hload
      have hheld' : (d'.files path).map (session P) = some (session P bytes) := by
        rw [← look_held hpath, hd', hheld]
        rfl
      obtain ⟨bytes', hfile', hsession⟩ := Option.map_eq_some_iff.mp hheld'
      rw [look_put_same hpath hfile', hd']
      rw [← hload, session_loadSnapshot, hw, hsession]
    refine Observed.bind (Q := fun r u => u = v ∧ ∀ object, r = .ok object → session P bytes = some object)
      (observed_run ?_ ?_ ?_) ?_ ?_
    · intro d' w w' object hd' hw hp
      refine ⟨hsame d' hd' w w' hw (by rw [hp]), fun object' h => ?_⟩
      cases h
      rw [← hw]
      exact session_of_loadSnapshot (by rw [hp])
    · intro d' w w' e h hd' hw hp _
      exact ⟨hsame d' hd' w w' hw (by rw [hp]), nofun⟩
    · exact fun _ _ => ⟨rfl, nofun⟩
    · rintro object u ⟨rfl, h⟩
      refine Observed.pure ⟨rfl, fun object' h' => ?_⟩
      cases h'
      rw [hheld, Option.map_some, h object rfl]
      rfl
    · rintro e u ⟨rfl, -⟩
      exact ⟨rfl, nofun⟩

structure Built (o : StoreUse) (s : Option Json.Object) (v : Look) (r : Except Halt Unit) (u : Look) : Prop where
  look : u = v ∨ ∃ x, u = v.strewing (x :: v.strewn.tail)
  done : r = .ok () → u = v.strewing (s :: v.strewn.tail)
  stops : o.Runs → r ≠ .error .stopped

lemma observed_build (o : StoreUse) (object : Json.Object) :
    Observed (look P) v (o.run (buildSnapshot P object) [] (fun bytes d => d.fill bytes))
      (Built o (parsed P (document P object)) v) := by
  refine observed_run ?_ ?_ ?_
  · intro d w w' _ hd hw hp
    have hlook : look P (d.fill w'.file) = v.strewing (session P w'.file :: v.strewn.tail) := hd ▸ look_fill
    refine ⟨Or.inr ⟨_, hlook⟩, fun _ => ?_, fun _ => nofun⟩
    rw [hlook, session_of_buildSnapshot hw hp]
  · intro d w w' e h hd hw hp hh
    have hlook : look P (d.fill w'.file) = v.strewing (session P w'.file :: v.strewn.tail) := hd ▸ look_fill
    exact ⟨Or.inr ⟨_, hlook⟩, nofun, fun hr => by rw [hh hr]; exact nofun⟩
  · exact fun h hh => ⟨Or.inl rfl, nofun, fun hr => by rw [hh hr]; exact nofun⟩

structure Discarded (o : Outcome) (v : Look) (r : Except Halt Unit) (u : Look) : Prop where
  look : ∃ t, u = v.strewing t
  ends : r = .ok () ∨ r = .error .stopped
  done : o = .done → r = .ok () ∧ u = v.strewing v.strewn.tail

lemma observed_discard (o : Outcome) : Observed (look P) v (discard o) (Discarded o v) := by
  refine Observed.bind (observed_step (u := v.strewing v.strewn.tail) (fun d hd => hd ▸ look_pop)) ?_ ?_
  · rintro a u (h | h | h | h)
    · rw [Prog.when, if_neg Bool.true_eq_false.mp]
      exact Observed.pure ⟨⟨_, rfl⟩, Or.inl rfl, fun _ => ⟨rfl, rfl⟩⟩
    · rw [when_pos rfl]
      intro d hd
      refine ⟨⟨_, hd ▸ look_leave⟩, Or.inl rfl, fun ho => ?_⟩
      rw [h] at ho
      cases ho
  · rintro e u (h | h | h | h)
    · exact ⟨⟨_, rfl⟩, Or.inr rfl, fun ho => by rw [h] at ho; cases ho⟩
    · exact ⟨⟨_, rfl⟩, Or.inr rfl, fun ho => by rw [h] at ho; cases ho⟩

lemma closing_ended {p : FileAction α} {d' : Directory} {r : Except Halt α} (hp : p d = (r, d'))
    (hr : r ≠ .error .stopped) : closing o p d = match discard o d' with
      | (.ok _, d) => (r, d)
      | (.error e, d) => (.error e, d) := by
  rw [closing, hp]
  obtain (_ | _) | _ := r
  · rfl
  · exact absurd rfl hr
  · rfl

lemma closing_stopped {p : FileAction α} {d' : Directory} (hp : p d = (.error .stopped, d')) :
    closing o p d = (.error .stopped, d') := by rw [closing, hp]

lemma observed_closing {p : FileAction α} {Q R : Except Halt α → Look → Prop} (h : Observed (look P) v p Q)
    (hstopped : ∀ u, Q (.error .stopped) u → R (.error .stopped) u)
    (hends : ∀ r u u', Q r u → r ≠ .error .stopped → Discarded o u (.ok ()) u' → R r u')
    (hstops : ∀ r u u', Q r u → Discarded o u (.error .stopped) u' → R (.error .stopped) u') :
    Observed (look P) v (closing o p) R := by
  intro d hd
  have hh := h d hd
  rcases hp : p d with ⟨r, d'⟩
  rw [hp] at hh
  by_cases hr : r = .error .stopped
  · subst hr
    rw [closing_stopped hp]
    exact hstopped _ hh
  · have hd' : Discarded o (look P d') (discard o d').1 (look P (discard o d').2) := observed_discard o d' rfl
    rw [closing_ended hp hr]
    rcases hu : discard o d' with ⟨e | _, u⟩
    · rw [hu] at hd'
      obtain he | he := hd'.ends
      · cases he
      · cases he
        exact hstops r _ _ hh hd'
    · rw [hu] at hd'
      exact hends r _ _ hh hr hd'

/-- A process that does not stop with temporary files in the directory, which it removes. -/
structure SnapshotWriting.Tidy (o : SnapshotWriting) : Prop where
  store : o.store.Runs
  steps : ∀ x ∈ [o.source, o.destination, o.permissions, o.copy, o.commit], ¬x.Stopped
  discarded : o.discarded = .done
  removed : o.removed = .done

inductive Replaced (o : SnapshotWriting) (v : Look) (path : Bytes) : Except Halt Bool → Look → Prop
  | committed {r : Except Halt Bool} (hr : r = .ok true ∨ r = .error .stopped) (ht : o.Tidy → r = .ok true) :
      Replaced o v path r (v.keep path (v.strewn.headD none))
  | left {r : Except Halt Bool} {t : List (Option Json.Object)} (hr : r ≠ .ok true)
      (ht : o.Tidy → r ≠ .error .stopped ∧ t = v.strewn) : Replaced o v path r (v.strewing t)

lemma observed_copySnapshot (o : SnapshotWriting) {bytes : Bytes} (hpath : path ≠ indexPath P) {x : Option Json.Object}
    {t : List (Option Json.Object)} :
    Observed (look P) (v.strewing (x :: t)) (copySnapshot o path bytes) (fun r u =>
      (r = .ok true ∨ r = .error .stopped ∧ ¬o.Tidy) ∧ u = (v.keep path (session P bytes)).strewing t ∨
      (r = .ok false ∨ r = .error .stopped ∧ ¬o.Tidy) ∧ ∃ y, u = v.strewing (y :: t)) := by
  have hstop : ∀ y ∈ [o.source, o.destination, o.permissions, o.copy, o.commit], y.Stopped → ¬o.Tidy :=
    fun y hy hs ht => ht.steps y hy hs
  refine observed_steps_if (fun _ => ?_) (fun _ => Observed.pure (Or.inr ⟨Or.inl rfl, x, rfl⟩)) ?_
  · refine observed_step_if (u := v.strewing (session P bytes :: t)) (fun d hd => ?_) (fun _ => ?_)
      (fun _ => Observed.pure (Or.inr ⟨Or.inl rfl, x, rfl⟩)) (fun h => ?_) (fun h => ?_)
    · rw [look_fill, hd]
      rfl
    · refine (observed_step (u := (v.keep path (session P bytes)).strewing t) (fun d hd => ?_)).imp ?_
      · rw [look_rename hpath, hd]
        rfl
      · rintro r u (h | h | h | h)
        · exact Or.inl ⟨Or.inl rfl, rfl⟩
        · exact Or.inr ⟨Or.inl rfl, _, rfl⟩
        · exact Or.inr ⟨Or.inr ⟨rfl, hstop _ (by simp) (Or.inl h)⟩, _, rfl⟩
        · exact Or.inl ⟨Or.inr ⟨rfl, hstop _ (by simp) (Or.inr h)⟩, rfl⟩
    · exact Or.inr ⟨Or.inr ⟨rfl, hstop _ (by simp) (Or.inl h)⟩, _, rfl⟩
    · exact Or.inr ⟨Or.inr ⟨rfl, hstop _ (by simp) (Or.inr h)⟩, _, rfl⟩
  · rintro ⟨y, hy, hs⟩
    obtain rfl := List.mem_singleton.mp hy
    exact Or.inr ⟨Or.inr ⟨rfl, hstop _ (by simp) hs⟩, x, rfl⟩

lemma observed_replaceSnapshot (o : SnapshotWriting) (hpath : path ≠ indexPath P) :
    Observed (look P) v (replaceSnapshot o path) (Replaced o v path) := by
  refine observed_get (fun d hd => ?_)
  have hhead : session P (d.temporaries.headD []) = v.strewn.headD none := hd ▸ session_headD d
  have hfails : Replaced o v path (.ok false) v := .left (t := v.strewn) nofun (fun _ => ⟨nofun, rfl⟩)
  refine observed_steps_if (fun _ => ?_) (fun _ => Observed.pure hfails) ?_
  · refine observed_step_if (u := v.strewing (none :: v.strewn)) (fun d hd => hd ▸ look_push) (fun _ => ?_)
      (fun _ => Observed.pure hfails) (fun h => ?_) (fun h => ?_)
    · refine Observed.bind (observed_copySnapshot o hpath) ?_ ?_
      · rintro a u (⟨hr, rfl⟩ | ⟨hr, y, rfl⟩)
        · obtain rfl : a = true := by
            obtain hr | ⟨hr, -⟩ := hr
            · exact Except.ok.inj hr
            · cases hr
          rw [hhead]
          exact Observed.ite (fun _ => Observed.pure (.committed (Or.inl rfl) (fun _ => rfl))) (fun hn => absurd rfl hn)
        · obtain rfl : a = false := by
            obtain hr | ⟨hr, -⟩ := hr
            · exact Except.ok.inj hr
            · cases hr
          refine Observed.ite (fun ht => absurd ht Bool.false_ne_true) (fun _ => ?_)
          refine Observed.bind (observed_discard o.discarded) (fun _ u hu => ?_) (fun e u hu => ?_)
          · obtain ⟨s, rfl⟩ := hu.look
            refine Observed.pure (.left (t := s) nofun (fun ht => ⟨nofun, ?_⟩))
            exact congrArg Look.strewn (hu.done ht.discarded).2
          · obtain ⟨s, rfl⟩ := hu.look
            refine .left (t := s) nofun (fun ht => ?_)
            cases (hu.done ht.discarded).1
      · rintro e u (⟨hr, rfl⟩ | ⟨hr, y, rfl⟩)
        · obtain hr | ⟨hr, ht⟩ := hr
          · cases hr
          · rw [hhead]
            exact .committed (Or.inr hr) (fun h => absurd h ht)
        · obtain hr | ⟨hr, ht⟩ := hr
          · cases hr
          · exact .left (t := y :: v.strewn) nofun (fun h => absurd h ht)
    · exact .left (t := v.strewn) nofun (fun ht => absurd (Or.inl h) (ht.steps o.destination (by simp)))
    · exact .left nofun (fun ht => absurd (Or.inr h) (ht.steps o.destination (by simp)))
  · rintro ⟨y, hy, hs⟩
    obtain rfl := List.mem_singleton.mp hy
    exact .left (t := v.strewn) nofun (fun ht => absurd hs (ht.steps o.source (by simp)))

inductive Snapped (o : SnapshotWriting) (v : Look) (path : Bytes) (s : Option Json.Object) :
    Except Halt Bool → Look → Prop
  | committed {r : Except Halt Bool} {t : List (Option Json.Object)} (hr : r = .ok true ∨ r = .error .stopped)
      (ht : o.Tidy → r = .ok true ∧ t = v.strewn) : Snapped o v path s r ((v.keep path s).strewing t)
  | left {r : Except Halt Bool} {t : List (Option Json.Object)} (hr : r ≠ .ok true)
      (ht : o.Tidy → t = v.strewn ∨ t = none :: v.strewn) : Snapped o v path s r (v.strewing t)

lemma observed_writeSnapshot (o : SnapshotWriting) (object : Json.Object) (hpath : path ≠ indexPath P) :
    Observed (look P) v (writeSnapshot P o path object) (Snapped o v path (parsed P (document P object))) := by
  set s := parsed P (document P object) with hs
  have hleft : ∀ r, r ≠ .ok true → Snapped o v path s r v := fun r hr => .left (t := v.strewn) hr (fun _ => Or.inl rfl)
  refine observed_steps_if (fun _ => ?_) (fun _ => Observed.pure (hleft _ nofun)) (fun _ => hleft _ nofun)
  refine observed_step_if (u := v.strewing (none :: v.strewn)) (fun d hd => hd ▸ look_push) (fun _ => ?_)
    (fun _ => Observed.pure (hleft _ nofun)) (fun _ => hleft _ nofun) (fun _ => .left nofun (fun _ => Or.inr rfl))
  -- with the temporary file still there
  refine observed_closing (Q := fun r u => (∃ t, u = v.strewing t ∧ r ≠ .ok true ∧
      (o.Tidy → r ≠ .error .stopped ∧ t.tail = v.strewn)) ∨
    ∃ t, u = (v.keep path s).strewing t ∧ (r = .ok true ∨ r = .error .stopped) ∧ (o.Tidy → r = .ok true ∧ t.tail = v.strewn)) ?_ ?_ ?_ ?_
  · refine Observed.bind (observed_build o.store object) (fun _ u hu => ?_) (fun e u hu => ?_)
    · obtain rfl : u = v.strewing (s :: v.strewn) := hu.done rfl
      refine (observed_replaceSnapshot o hpath).imp ?_
      rintro r w (⟨hr, ht⟩ | ⟨hr, ht⟩)
      · exact Or.inr ⟨s :: v.strewn, rfl, hr, fun h => ⟨ht h, rfl⟩⟩
      · exact Or.inl ⟨_, rfl, hr, fun h => ⟨(ht h).1, congrArg List.tail (ht h).2⟩⟩
    · have he : o.Tidy → (Except.error e : Except Halt Bool) ≠ .error .stopped := fun h hh =>
        hu.stops h.store (by cases hh; rfl)
      obtain rfl | ⟨x, rfl⟩ := hu.look
      · exact Or.inl ⟨_, rfl, nofun, fun h => ⟨he h, rfl⟩⟩
      · exact Or.inl ⟨x :: v.strewn, rfl, nofun, fun h => ⟨he h, rfl⟩⟩
  · rintro u (⟨t, rfl, hr, ht⟩ | ⟨t, rfl, hr, ht⟩)
    · exact .left hr (fun h => absurd rfl (ht h).1)
    · exact .committed hr (fun h => nomatch (ht h).1)
  · rintro r u u' (⟨t, rfl, hr, ht⟩ | ⟨t, rfl, hr, ht⟩) - hu
    · obtain ⟨t', rfl⟩ := hu.look
      refine .left (t := t') hr (fun h => Or.inl ?_)
      exact (congrArg Look.strewn (hu.done h.removed).2).trans (ht h).2
    · obtain ⟨t', rfl⟩ := hu.look
      refine .committed (t := t') hr (fun h => ⟨(ht h).1, ?_⟩)
      exact (congrArg Look.strewn (hu.done h.removed).2).trans (ht h).2
  · rintro r u u' (⟨t, rfl, hr, ht⟩ | ⟨t, rfl, hr, ht⟩) hu
    · obtain ⟨t', rfl⟩ := hu.look
      exact .left (t := t') nofun (fun h => nomatch (hu.done h.removed).1)
    · obtain ⟨t', rfl⟩ := hu.look
      exact .committed (t := t') (Or.inr rfl) (fun h => nomatch (hu.done h.removed).1)

end ChatDesktop.Session.AuthFiles
