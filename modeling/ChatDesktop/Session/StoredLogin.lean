import ChatDesktop.Library.JsonText
import ChatDesktop.Library.Reactive
import ChatDesktop.Session.AuthSessions

namespace ChatDesktop.Session.AuthFiles

open Library Library.Program Library.Reactive Storage

section

variable (P : Chat.Platform)

/-- JSON that has been parsed is parsed again as it is written. -/
def Reparsed : Prop := ∀ text object, parsed P text = some object → parsed P (document P object) = some object

def Kept (object : Json.Object) : Prop := parsed P (document P object) = some object

def Call.Kept : Call → Prop
  | .save _ object => AuthFiles.Kept P object
  | .update _ modify => ∀ object object', AuthFiles.Kept P object → modify object = some object' → AuthFiles.Kept P object'
  | _ => True

def readable (d : Directory) : Option Json.Object := (look P d).readable P

def Call.target (d : Directory) : Call → Option (Option Json.Object)
  | .save _ object => some (some object)
  | .read _ => none
  | .clear _ => some none
  | .update _ modify => ((readable P d).bind modify).map some

/-- The readable session stays, unless a call succeeds or is stopped that is to change it. -/
def Survives (d : Directory) (c : Call) : Prop :=
  match (perform P c d).1 with
  | .accepted true => some (readable P (next P d c)) = c.target P d
  | .accepted false => readable P (next P d c) = readable P d
  | .answered x => readable P (next P d c) = readable P d ∧ (x = none ∨ x = readable P d)
  | .stopped => readable P (next P d c) = readable P d ∨ some (readable P (next P d c)) = c.target P d

/-- To write the session of the active account, a call can read the index or it can replace it. -/
def Careful (d : Directory) : Call → Prop
  | .save o object => ∀ name, accountFileName P object = some name → (look P d).index = some (some name) →
      ¬(o.name.outcome = .fails ∧ o.index.outcome = .fails)
  | .update o modify => ∀ object object', readable P d = some object → modify object = some object' →
      accountFileName P object' = accountFileName P object →
      ¬(o.writing.name.outcome = .fails ∧ o.writing.index.outcome = .fails)
  | _ => True

/-- A save succeeds, or stops when it has replaced the index. -/
def TakesEffect (d : Directory) : Call → Prop
  | .save o object => (perform P (.save o object) d).1 = .accepted true ∨
      (perform P (.save o object) d).1 = .stopped ∧ (next P d (.save o object)).files (indexPath P) ≠ d.files (indexPath P)
  | _ => False

end

variable {P : Chat.Platform} {d : Directory} {v u : Look} {name : Bytes} {object : Json.Object}
  {s : Option Json.Object} {α : Type}

/-! ### The readable session -/

lemma findSome?_eq {β γ : Type} {f g : β → Option γ} {l : List β} (h : ∀ x ∈ l, f x = g x) :
    l.findSome? f = l.findSome? g := by
  induction l with
  | nil => rfl
  | cons x l ih =>
    rw [List.findSome?_cons, List.findSome?_cons, h x List.mem_cons_self,
      ih (fun y hy => h y (List.mem_cons_of_mem _ hy))]

lemma readable_eq (hlegacy : name ∉ legacyPaths P) (hindex : v.index ≠ some (some name)) (hi : u.index = v.index)
    (hheld : ∀ q, q ≠ name → u.held q = v.held q) : u.readable P = v.readable P := by
  have hother : ∀ other, v.index = some (some other) → u.held other = v.held other := fun other ho =>
    hheld other (fun he => hindex (he ▸ ho))
  rw [Look.readable, Look.readable, hi]
  rcases hv : v.index with _ | _ | other
  · dsimp only
    rw [findSome?_eq (fun q hq => hheld q (fun he => hlegacy (he ▸ hq)))]
  · rfl
  · dsimp only
    rw [hother other hv]

lemma readable_active (hi : u.index = some (some name)) (hnil : name ≠ []) (hheld : u.held name = some (some object))
    (haccount : accountFileName P object = some name) : u.readable P = some object := by
  rw [Look.readable, hi]
  dsimp only
  rw [if_neg hnil, hheld, Option.join_some, Option.filter_some, if_pos (decide_eq_true haccount)]

lemma account_of_readable (h : v.readable P = some object) (hi : v.index = some (some name)) :
    accountFileName P object = some name := by
  rw [Look.readable, hi] at h
  dsimp only at h
  split_ifs at h
  exact of_decide_eq_true (Option.filter_eq_some_iff.mp h).2

lemma parsed_of_readable (h : readable P d = some object) : ∃ text, parsed P text = some object := by
  have hheld : ∃ q, ((look P d).held q).join = some object := by
    rw [readable, Look.readable] at h
    rcases hv : (look P d).index with _ | _ | name
    · rw [hv] at h
      have hj := (Option.filter_eq_some_iff.mp h).1
      obtain ⟨q, -, hq⟩ := List.exists_of_findSome?_eq_some (Option.join_eq_some_iff.mp hj)
      exact ⟨q, by rw [hq]; rfl⟩
    · rw [hv] at h
      cases h
    · rw [hv] at h
      dsimp only at h
      split_ifs at h
      exact ⟨name, (Option.filter_eq_some_iff.mp h).1⟩
  obtain ⟨q, hq⟩ := hheld
  rw [look] at hq
  dsimp only at hq
  split_ifs at hq
  · cases hq
  · obtain ⟨file, -, hfile⟩ := Option.map_eq_some_iff.mp (Option.join_eq_some_iff.mp hq)
    exact parsed_of_session hfile

/-! ### Steps -/

def Settled (P : Chat.Platform) (v : Look) (object : Json.Object) (r : Except Halt Bool) (u : Look) : Prop :=
  match r with
  | .ok true => u.readable P = some object
  | .error .stopped => u.readable P = v.readable P ∨ u.readable P = some object
  | _ => u.readable P = v.readable P

lemma Settled.same {r : Except Halt Bool} (h : u.readable P = v.readable P) (hr : r ≠ .ok true) :
    Settled P v object r u := by
  rcases r with (_ | _) | (_ | _)
  · exact h
  · exact Or.inl h
  · exact h
  · exact absurd rfl hr

lemma Settled.congr {w : Look} {r : Except Halt Bool} (h : v.readable P = w.readable P) (hs : Settled P v object r u) :
    Settled P w object r u := by
  rcases r with (_ | _) | (_ | _)
  · exact Eq.trans hs h
  · exact Or.imp_left (fun hu => hu.trans h) hs
  · exact Eq.trans hs h
  · exact hs

lemma Settled.written {r : Except Halt Bool} (h : u.readable P = some object) (hr : r = .ok true ∨ r = .error .stopped) :
    Settled P v object r u := by
  obtain rfl | rfl := hr
  · exact h
  · exact Or.inr h

lemma Wrote.settled (hP : Distinct P) {o : SessionWriting} {r : Except Halt Bool} (hkept : Kept P object)
    (haccount : accountFileName P object = some name)
    (hcareful : v.index = some (some name) → ¬(o.name.outcome = .fails ∧ o.index.outcome = .fails))
    (h : Wrote P o name (parsed P (document P object)) v r u) : Settled P v object r u := by
  have hlegacy := (hP.account _ _ haccount).2
  have hnil : name ≠ [] := by
    rintro rfl
    cases (hP.valid haccount).1
  have hother : ∀ (w : Look) (q : Bytes), q ≠ name → (w.keep name (parsed P (document P object))).held q = w.held q :=
    fun w q hq => Function.update_of_ne hq _ _
  rw [Kept] at hkept
  cases h with
  | left hr ht => exact .same rfl hr
  | interrupted ht =>
    by_cases hi : v.index = some (some name)
    · refine .written (readable_active hi hnil ?_ haccount) (Or.inr rfl)
      rw [hkept]
      exact Function.update_self ..
    · exact .same (readable_eq hlegacy hi rfl (hother v)) nofun
  | named hr ht hname hu hother =>
    refine .written (readable_active hu.index hnil ?_ haccount) hr
    rw [hu.others name hname, hkept]
    exact Function.update_self ..
  | renounced hr ht hread hindex hu =>
    have hi : v.index ≠ some (some name) := fun hi => hcareful hi ⟨hread hi, hindex⟩
    have hne : r ≠ .ok true := by
      obtain rfl | rfl := hr <;> exact nofun
    obtain ⟨rfl, -⟩ | rfl := hu
    · exact .same (readable_eq hlegacy hi rfl (hother v)) hne
    · refine .same (readable_eq hlegacy hi rfl (fun q hq => ?_)) hne
      exact (Function.update_of_ne hq _ _).trans (hother v q hq)

lemma Wrote.index {o : SessionWriting} {r : Except Halt Bool} (h : Wrote P o name s v r u) :
    u.index = v.index ∨ u.index = some (some name) ∧ (r = .ok true ∨ r = .error .stopped) := by
  cases h with
  | left hr ht => exact Or.inl rfl
  | interrupted ht => exact Or.inl rfl
  | named hr ht hname hu hother => exact Or.inr ⟨hu.index, hr⟩
  | renounced hr ht hread hindex hu =>
    obtain ⟨rfl, -⟩ | rfl := hu
    · exact Or.inl rfl
    · exact Or.inl rfl

lemma Wrote.index_ok {o : SessionWriting} (h : Wrote P o name s v (.ok true) u) : u.index = some (some name) := by
  cases h with
  | left hr ht => exact absurd rfl hr
  | named hr ht hname hu hother => exact hu.index
  | renounced hr ht hread hindex hu => obtain hr | hr := hr <;> cases hr

lemma Snapped.index {o : SnapshotWriting} {r : Except Halt Bool} (h : Snapped o v name s r u) : u.index = v.index := by
  cases h with
  | committed hr ht => rfl
  | left hr ht => rfl

/-- The index is not among the files that it may name. -/
def Sane (P : Chat.Platform) (v : Look) : Prop := v.index ≠ some (some (indexPath P))

lemma Wrote.sane (hP : Distinct P) {o : SessionWriting} {r : Except Halt Bool}
    (haccount : accountFileName P object = some name) (h : Wrote P o name s v r u) (hv : Sane P v) : Sane P u := by
  rw [Sane]
  obtain hi | ⟨hi, -⟩ := h.index
  · rw [hi]
    exact hv
  · rw [hi]
    exact fun he => (hP.account _ _ haccount).1 (Option.some.inj (Option.some.inj he))

structure ReadSettled (P : Chat.Platform) (v : Look) (r : Except Halt (Option Json.Object)) (u : Look) : Prop where
  readable : u.readable P = v.readable P
  answer : ∀ x, r = .ok x → x = none ∨ x = v.readable P
  sane : Sane P u

lemma SessionRead.settled (hP : Distinct P) {o : SessionReading} {r : Except Halt (Option Json.Object)}
    (hkept : ∀ object, v.readable P = some object → Kept P object) (hv : Sane P v) (h : SessionRead P o v r u) :
    ReadSettled P v r u := by
  cases h with
  | answered h =>
    refine ⟨rfl, fun x hx => ?_, hv⟩
    cases hx
    exact h.imp_right And.left
  | failed e => exact ⟨rfl, nofun, hv⟩
  | @moved object name r u hindex hreadable hname hu =>
    have hs := hu.settled hP (hkept _ hreadable) hname (fun hi => by rw [hindex] at hi; cases hi)
    refine ⟨?_, fun x hx => ?_, hu.sane hP hname hv⟩
    · rw [hreadable]
      rcases r with (_ | _) | (_ | _)
      · exact hs.trans hreadable
      · obtain h | h := hs
        · exact h.trans hreadable
        · exact h
      · exact hs.trans hreadable
      · exact hs
    · rcases r with (_ | _) | (_ | _)
      · cases hx
      · cases hx
      · cases hx
      · cases hx
        exact Or.inr hreadable.symm

/-! ### Calls -/

def ended (f : α → Answer) (fallback : α) : Except Halt α → Answer
  | .ok a => f a
  | .error .thrown => f fallback
  | .error .stopped => .stopped

lemma answering_guarded {f : α → Answer} {fallback : α} {p : FileAction α} {r : Except Halt α} {d' : Directory}
    (h : p d = (r, d')) : answering f (guarded fallback p) d = (ended f fallback r, d') := by
  rw [answering, guarded, h]
  rcases r with (_ | _) | _ <;> rfl

lemma ended_true {r : Except Halt Bool} (h : ended .accepted false r = .accepted true) : r = .ok true := by
  rcases r with (_ | _) | (_ | _)
  · cases h
  · cases h
  · cases h
  · rfl

lemma Settled.survives {c : Call} {r : Except Halt Bool} {d' : Directory}
    (hc : perform P c d = (ended .accepted false r, d')) (htarget : c.target P d = some (some object))
    (h : Settled P (look P d) object r (look P d')) : Survives P d c := by
  rw [Survives, next, hc, htarget]
  rcases r with (_ | _) | (_ | _)
  · exact h
  · obtain h | h := h
    · exact Or.inl h
    · exact Or.inr (congrArg some h)
  · exact h
  · exact congrArg some h

lemma survives_same {c : Call} {r : Except Halt Bool} {d' : Directory}
    (hc : perform P c d = (ended .accepted false r, d')) (hr : r ≠ .ok true) (h : readable P d' = readable P d) :
    Survives P d c := by
  rw [Survives, next, hc]
  rcases r with (_ | _) | (_ | _)
  · exact h
  · exact Or.inl h
  · exact h
  · exact absurd rfl hr

lemma survives_save (hP : Distinct P) {o : SessionWriting} (hsane : Sane P (look P d)) (hkept : Kept P object)
    (hcareful : Careful P d (.save o object)) :
    Survives P d (.save o object) ∧ Sane P (look P (next P d (.save o object))) := by
  rcases hw : writeSession P o object d with ⟨r, d'⟩
  have hc : perform P (.save o object) d = (ended .accepted false r, d') := answering_guarded hw
  have hnext : next P d (.save o object) = d' := congrArg Prod.snd hc
  cases haccount : accountFileName P object with
  | none =>
    have hh := observed_writeSession_nameless (v := look P d) o haccount d rfl
    rw [hw] at hh
    obtain ⟨rfl, hlook⟩ : r = .error .thrown ∧ look P d' = look P d := hh
    refine ⟨survives_same hc nofun (congrArg (Look.readable P) hlook), ?_⟩
    rw [hnext, hlook]
    exact hsane
  | some name =>
    have hh := observed_writeSession hP o haccount hsane d rfl
    rw [hw] at hh
    refine ⟨(hh.settled hP hkept haccount (hcareful name haccount)).survives hc rfl, ?_⟩
    rw [hnext]
    exact hh.sane hP haccount hsane

lemma survives_read (hP : Distinct P) {o : SessionReading} (hsane : Sane P (look P d))
    (hkept : ∀ object, readable P d = some object → Kept P object) :
    Survives P d (.read o) ∧ Sane P (look P (next P d (.read o))) := by
  rcases hr : readSession P o d with ⟨r, d'⟩
  have hc : perform P (.read o) d = (ended .answered none r, d') := answering_guarded hr
  have hh := observed_readSession hP o hsane d rfl
  rw [hr] at hh
  have hs := hh.settled hP hkept hsane
  rw [Survives, next, hc]
  refine ⟨?_, hs.sane⟩
  rcases r with (_ | _) | x
  · exact ⟨hs.readable, Or.inl rfl⟩
  · exact Or.inl hs.readable
  · exact ⟨hs.readable, hs.answer x rfl⟩

lemma survives_clear (hP : Distinct P) {o : Clearing} (hsane : Sane P (look P d)) :
    Survives P d (.clear o) ∧ Sane P (look P (next P d (.clear o))) := by
  rcases hr : clearSession P o d with ⟨r, d'⟩
  have hc : perform P (.clear o) d = (ended .accepted false r, d') := answering_guarded hr
  have hnext : next P d (.clear o) = d' := congrArg Prod.snd hc
  have hh : Cleared P o (look P d) r (look P d') := by
    have h := observed_clearSession hP o hsane d rfl
    rwa [hr] at h
  rw [hnext]
  generalize hu : look P d' = u at hh
  cases hh with
  | left hne => exact ⟨survives_same hc hne (congrArg (Look.readable P) hu), hu ▸ hsane⟩
  | cleared hends hpaths hthin hother =>
    have hnone : readable P d' = none := by
      rw [readable, hu, Look.readable, hthin.index]
      rfl
    refine ⟨?_, ?_⟩
    · rw [Survives, next, hc, hnone]
      obtain rfl | rfl := hends
      · rfl
      · exact Or.inr rfl
    · rw [Sane, hthin.index]
      exact fun he => hP.indexPath_ne_nil (Option.some.inj (Option.some.inj he)).symm

lemma survives_update (hP : Distinct P) {o : Updating} {modify : Json.Object → Option Json.Object}
    (hsane : Sane P (look P d)) (hkept : (Call.update o modify).Kept P)
    (hread : ∀ object, readable P d = some object → Kept P object) (hcareful : Careful P d (.update o modify)) :
    Survives P d (.update o modify) ∧ Sane P (look P (next P d (.update o modify))) := by
  rcases hr : readSession P o.reading d with ⟨r, d₁⟩
  have hs : ReadSettled P (look P d) r (look P d₁) := by
    have h := observed_readSession hP o.reading hsane d rfl
    rw [hr] at h
    exact h.settled hP hread hsane
  have hsame : ∀ r', r' ≠ .ok true → updateSession P o modify d = (r', d₁) →
      Survives P d (.update o modify) ∧ Sane P (look P (next P d (.update o modify))) := by
    intro r' hne h
    have hc : perform P (.update o modify) d = (ended .accepted false r', d₁) := answering_guarded h
    refine ⟨survives_same hc hne hs.readable, ?_⟩
    rw [next, hc]
    exact hs.sane
  rcases r with e | _ | object
  · exact hsame (.error e) nofun (bind_error hr)
  · exact hsame (.ok false) nofun (bind_ok hr)
  cases hm : modify object with
  | none => exact hsame (.ok false) nofun ((bind_ok hr).trans (by dsimp only; rw [hm]; rfl))
  | some object' =>
    have hobject : readable P d = some object := ((hs.answer _ rfl).resolve_left nofun).symm
    rcases hw : writeSession P o.writing object' d₁ with ⟨r', d'⟩
    have hu : updateSession P o modify d = (r', d') := (bind_ok hr).trans (by dsimp only; rw [hm]; exact hw)
    have hc : perform P (.update o modify) d = (ended .accepted false r', d') := answering_guarded hu
    have hnext : next P d (.update o modify) = d' := congrArg Prod.snd hc
    cases haccount : accountFileName P object' with
    | none =>
      have hh := observed_writeSession_nameless (v := look P d₁) o.writing haccount d₁ rfl
      rw [hw] at hh
      obtain ⟨rfl, hlook⟩ : r' = .error .thrown ∧ look P d' = look P d₁ := hh
      refine ⟨survives_same hc nofun ((congrArg (Look.readable P) hlook).trans hs.readable), ?_⟩
      rw [hnext, hlook]
      exact hs.sane
    | some name =>
      have hh := observed_writeSession hP o.writing haccount hs.sane d₁ rfl
      rw [hw] at hh
      have hcare : (look P d₁).index = some (some name) →
          ¬(o.writing.name.outcome = .fails ∧ o.writing.index.outcome = .fails) := fun hi =>
        hcareful object object' hobject hm
          (haccount.trans (account_of_readable (hs.readable.trans hobject) hi).symm)
      have hsettled := hh.settled hP (hkept object object' (hread object hobject) hm) haccount hcare
      have htarget : (Call.update o modify).target P d = some (some object') := by
        rw [Call.target, hobject, Option.bind_some, hm]
        rfl
      refine ⟨Settled.survives hc htarget (Settled.congr hs.readable hsettled), ?_⟩
      rw [hnext]
      exact hh.sane hP haccount hs.sane

lemma survives_step (hP : Distinct P) (hparsed : Reparsed P) {c : Call} (hsane : Sane P (look P d)) (hkept : c.Kept P)
    (hcareful : Careful P d c) : Survives P d c ∧ Sane P (look P (next P d c)) := by
  have hread : ∀ object, readable P d = some object → Kept P object := by
    intro object h
    obtain ⟨text, htext⟩ := parsed_of_readable h
    exact hparsed text object htext
  cases c with
  | save o object => exact survives_save hP hsane hkept hcareful
  | read o => exact survives_read hP hsane hread
  | clear o => exact survives_clear hP hsane
  | update o modify => exact survives_update hP hsane hkept hread hcareful

/-! ### After a logout -/

def LoggedOut (P : Chat.Platform) (d : Directory) : Prop := (look P d).index = some (some [])

lemma LoggedOut.readable (h : LoggedOut P d) : readable P d = none := by
  rw [AuthFiles.readable, Look.readable, h]
  rfl

lemma LoggedOut.sane (hP : Distinct P) (h : LoggedOut P d) : Sane P (look P d) := by
  rw [Sane, h]
  exact fun he => hP.indexPath_ne_nil (Option.some.inj (Option.some.inj he)).symm

lemma LoggedOut.readSession (hP : Distinct P) (h : LoggedOut P d) (o : SessionReading) :
    (∀ object, (readSession P o d).1 ≠ .ok (some object)) ∧ LoggedOut P (readSession P o d).2 := by
  have hh := observed_readSession hP o (h.sane hP) d rfl
  rw [LoggedOut]
  generalize (AuthFiles.readSession P o d).1 = r at hh ⊢
  generalize look P (AuthFiles.readSession P o d).2 = u at hh ⊢
  cases hh with
  | answered hx =>
    refine ⟨fun object he => ?_, h⟩
    cases he
    obtain hx | ⟨hx, -⟩ := hx
    · cases hx
    · exact nomatch hx.trans h.readable
  | failed e => exact ⟨nofun, h⟩
  | moved hindex hreadable hname hu => exact nomatch hindex.symm.trans h

lemma LoggedOut.save (hP : Distinct P) {o : SessionWriting} (h : LoggedOut P d)
    (hc : ¬TakesEffect P d (.save o object)) : LoggedOut P (next P d (.save o object)) := by
  rcases hw : writeSession P o object d with ⟨r, d'⟩
  have hperform : perform P (.save o object) d = (ended .accepted false r, d') := answering_guarded hw
  rw [TakesEffect, next, hperform] at hc
  rw [next, hperform]
  cases haccount : accountFileName P object with
  | none =>
    have hh := observed_writeSession_nameless (v := look P d) o haccount d rfl
    rw [hw] at hh
    rw [LoggedOut, hh.2]
    exact h
  | some name =>
    have hh := observed_writeSession hP o haccount (h.sane hP) d rfl
    rw [hw] at hh
    obtain hi | ⟨hi, rfl | rfl⟩ := hh.index
    · exact hi.trans h
    · exact absurd (Or.inl rfl) hc
    · refine absurd (Or.inr ⟨rfl, fun hfiles => ?_⟩) hc
      have hsame : (look P d').index = (look P d).index := by
        rw [look, look]
        exact congrArg (Option.map indexed) hfiles
      have hnil : name = [] := Option.some.inj (Option.some.inj (hi.symm.trans (hsame.trans h)))
      subst hnil
      cases (hP.valid haccount).1

lemma LoggedOut.clear (hP : Distinct P) {o : Clearing} (h : LoggedOut P d) : LoggedOut P (next P d (.clear o)) := by
  rcases hr : clearSession P o d with ⟨r, d'⟩
  have hperform : perform P (.clear o) d = (ended .accepted false r, d') := answering_guarded hr
  have hh := observed_clearSession hP o (h.sane hP) d rfl
  rw [hr] at hh
  rw [next, hperform, LoggedOut]
  generalize look P (ended Answer.accepted false r, d').2 = u at hh ⊢
  cases hh with
  | left hne => exact h
  | cleared hends hpaths hthin hother => exact hthin.index

lemma LoggedOut.update (hP : Distinct P) {o : Updating} {modify : Json.Object → Option Json.Object}
    (h : LoggedOut P d) : LoggedOut P (next P d (.update o modify)) := by
  obtain ⟨hnone, hd⟩ := h.readSession hP o.reading
  rcases hr : AuthFiles.readSession P o.reading d with ⟨e | _ | object, d'⟩
  · rw [hr] at hd
    have hu : updateSession P o modify d = (.error e, d') := bind_error hr
    have hperform : perform P (.update o modify) d = (ended .accepted false (.error e), d') := answering_guarded hu
    rw [next, hperform]
    exact hd
  · rw [hr] at hd
    have hu : updateSession P o modify d = (.ok false, d') := bind_ok hr
    have hperform : perform P (.update o modify) d = (ended .accepted false (.ok false), d') := answering_guarded hu
    rw [next, hperform]
    exact hd
  · exact absurd (congrArg Prod.fst hr) (hnone object)

lemma LoggedOut.step (hP : Distinct P) {c : Call} (h : LoggedOut P d) (hc : ¬TakesEffect P d c) :
    LoggedOut P (next P d c) := by
  cases c with
  | save o object => exact h.save hP hc
  | read o =>
    have hd := (h.readSession hP o).2
    rcases hr : AuthFiles.readSession P o d with ⟨r, d'⟩
    rw [hr] at hd
    have hperform : perform P (.read o) d = (ended .answered none r, d') := answering_guarded hr
    rw [next, hperform]
    exact hd
  | clear o => exact h.clear hP
  | update o modify => exact h.update hP

lemma loggedOut_clear (hP : Distinct P) {o : Clearing} (hsane : Sane P (look P d))
    (h : (perform P (.clear o) d).1 = .accepted true) : LoggedOut P (next P d (.clear o)) := by
  rcases hr : clearSession P o d with ⟨r, d'⟩
  have hperform : perform P (.clear o) d = (ended .accepted false r, d') := answering_guarded hr
  have hh := observed_clearSession hP o hsane d rfl
  rw [hr] at hh
  rw [next, hperform, LoggedOut]
  rw [hperform] at h
  generalize look P (ended Answer.accepted false r, d').2 = u at hh ⊢
  cases hh with
  | left hne => exact absurd (ended_true h) hne
  | cleared hends hpaths hthin hother => exact hthin.index

/-! ### Reading without a failure -/

lemma readActiveName_plain (d : Directory) : readActiveName P {} d =
    (match (look P d).index with
      | none => .ok none
      | some none => .error .thrown
      | some (some name) => .ok (some name), d) := by
  rw [readActiveName, get_bind_apply, look]
  cases d.files (indexPath P) with
  | none => rfl
  | some bytes =>
    change (if indexValid (bytes.take 33) then pure (some (bytes.take 33)) else Prog.throw .thrown : FileAction _) d = _
    rw [Option.map_some, indexed]
    by_cases h : indexValid (bytes.take 33)
    · rw [if_pos h, if_pos h]
      rfl
    · rw [if_neg h, if_neg h]
      rfl

lemma run_ok {p : Action α} {bytes : Bytes} {g : Bytes → Directory → Directory} {a : α} {w : World}
    (h : p { storage := { opt := {} }, file := bytes, draws := d.draws } = (.ok a, w)) :
    ({} : StoreUse).run p bytes g d = (.ok a, { g w.file d with draws := w.draws }) := by
  have hstep : step ({} : StoreUse).opened id d = (.ok true, d) := rfl
  refine (bind_ok hstep).trans ((congrFun (if_pos rfl) d).trans ?_)
  simp only [Option.map_none, h]

lemma run_error {p : Action α} {bytes : Bytes} {g : Bytes → Directory → Directory} {e : Error} {w : World}
    (h : p { storage := { opt := {} }, file := bytes, draws := d.draws } = (.error e, w)) :
    ({} : StoreUse).run p bytes g d = (.error .thrown, { g w.file d with draws := w.draws }) := by
  have hstep : step ({} : StoreUse).opened id d = (.ok true, d) := rfl
  refine (bind_ok hstep).trans ((congrFun (if_pos rfl) d).trans ?_)
  simp only [Option.map_none, h, StoreUse.halt]

lemma readSnapshot_plain (path : Bytes) (hpath : path ≠ indexPath P) : ∃ d', look P d' = look P d ∧
    readSnapshot P {} path d = (match (look P d).held path with
      | none => .ok none
      | some none => .error .thrown
      | some (some object) => .ok (some object), d') := by
  refine ⟨_, (observed_readSnapshot {} hpath d rfl).1, Prod.ext ?_ rfl⟩
  rw [look_held hpath, readSnapshot, get_bind_apply]
  cases d.files path with
  | none => rfl
  | some bytes =>
    have hload : (loadSnapshot P { storage := { opt := {} }, file := bytes, draws := d.draws }).1.toOption =
        session P bytes := toOption_loadSnapshot rfl
    rcases hl : loadSnapshot P { storage := { opt := {} }, file := bytes, draws := d.draws } with ⟨e | object, w⟩
    · have hrun := bind_error (f := fun object => pure (some object)) (run_error (g := fun bytes d => d.put path bytes) hl)
      rw [hl] at hload
      rw [Option.map_some, ← hload]
      exact (congrArg Prod.fst hrun).trans rfl
    · have hrun := bind_ok (f := fun object => pure (some object)) (run_ok (g := fun bytes d => d.put path bytes) hl)
      rw [hl] at hload
      rw [Option.map_some, ← hload]
      exact (congrArg Prod.fst hrun).trans rfl

lemma removeAll_plain (paths : List Bytes) (d : Directory) : ∃ d', removeAll (fun _ => .done) paths d = (.ok (), d') := by
  induction paths generalizing d with
  | nil => exact ⟨d, rfl⟩
  | cons path paths ih => exact ih _

lemma removeNamed_plain (kept : Bytes) (previous : Option Bytes) (d : Directory) :
    ∃ d', removeNamed .done kept previous d = (.ok (), d') := by
  cases previous with
  | none => exact ⟨d, rfl⟩
  | some name =>
    rw [removeNamed]
    split_ifs
    · exact ⟨_, rfl⟩
    · exact ⟨_, rfl⟩

lemma writeSnapshot_plain (path : Bytes) (hshort : Short P object) (d : Directory) :
    ∃ d', writeSnapshot P {} path object d = (.ok true, d') := by
  obtain ⟨w, hw⟩ : ∃ w, buildSnapshot P object { storage := { opt := {} }, file := [], draws := d.draws } = (.ok (), w) :=
    buildSnapshot_short rfl rfl hshort
  have hrun : (({} : StoreUse).run (buildSnapshot P object) [] (fun bytes d => d.fill bytes) >>= fun _ =>
      replaceSnapshot {} path) d.push = (.ok true, (replaceSnapshot {} path { d.push.fill w.file with draws := w.draws }).2) :=
    (bind_ok (run_ok (d := d.push) (g := fun bytes d => d.fill bytes) hw)).trans rfl
  have hdirectory : steps [({} : SnapshotWriting).directory] d = (.ok true, d) := rfl
  have hcreated : step ({} : SnapshotWriting).created Directory.push d = (.ok true, d.push) := rfl
  rw [writeSnapshot, bind_ok hdirectory, if_pos rfl, bind_ok hcreated, if_pos rfl]
  exact ⟨_, closing_ended (o := .done) hrun nofun⟩

lemma writeSession_plain (haccount : accountFileName P object = some name) (hshort : Short P object) (d : Directory) :
    ∃ d', writeSession P {} object d = (.ok true, d') := by
  obtain ⟨previous, hprevious⟩ : ∃ previous, guarded none (readActiveName P {}) d = (.ok previous, d) := by
    rw [guarded, readActiveName_plain]
    rcases (look P d).index with _ | _ | name
    · exact ⟨none, rfl⟩
    · exact ⟨none, rfl⟩
    · exact ⟨some name, rfl⟩
  obtain ⟨d₁, h₁⟩ := writeSnapshot_plain name hshort d
  rw [writeSession, haccount]
  dsimp only
  rw [bind_ok hprevious, bind_ok h₁, if_pos rfl]
  have hrest : ∀ d₂, ∃ d', (do
      removeNamed .done name previous
      removeAll (fun _ => .done) ((legacyPaths P).filter (fun legacy => !decide (legacy = name)))
      pure true : FileAction Bool) d₂ = (.ok true, d') := by
    intro d₂
    obtain ⟨d₃, h₃⟩ := removeNamed_plain name previous d₂
    obtain ⟨d₄, h₄⟩ := removeAll_plain ((legacyPaths P).filter (fun legacy => !decide (legacy = name))) d₃
    rw [bind_ok h₃, bind_ok h₄]
    exact ⟨d₄, rfl⟩
  split_ifs
  · exact hrest d₁
  · exact hrest _

lemma migrate_plain {paths : List Bytes} (hpaths : ∀ path ∈ paths, path ≠ indexPath P)
    (hshort : ∀ object, (paths.findSome? (look P d).held).join.filter (fun object => (accountFileName P object).isSome) =
      some object → Short P object) :
    ended .answered none (migrate P {} paths d).1 = .answered (((paths.findSome? (look P d).held).join).filter
      (fun object => (accountFileName P object).isSome)) := by
  induction paths generalizing d with
  | nil => rfl
  | cons path paths ih =>
    obtain ⟨d', hlook, hread⟩ := readSnapshot_plain (d := d) path (hpaths path List.mem_cons_self)
    rw [List.findSome?_cons] at hshort ⊢
    rw [migrate]
    rcases hheld : (look P d).held path with _ | _ | object
    · rw [hheld] at hread hshort
      rw [bind_ok hread]
      rw [← hlook] at hshort ⊢
      exact ih (fun q hq => hpaths q (List.mem_cons_of_mem _ hq)) hshort
    · rw [hheld] at hread
      rw [bind_error hread]
      rfl
    · rw [hheld] at hread hshort
      rw [bind_ok hread, Option.join_some, Option.filter_some]
      dsimp only
      cases haccount : accountFileName P object with
      | none =>
        have hw : writeSession P {} object d' = (.error .thrown, d') := by
          rw [writeSession, haccount]
          rfl
        rw [bind_error hw]
        rfl
      | some name =>
        obtain ⟨d'', hw⟩ := writeSession_plain haccount (hshort object (by rw [Option.join_some, Option.filter_some, haccount]; rfl)) d'
        rw [bind_ok hw]
        rfl

lemma answer_read (hP : Distinct P) (hsane : Sane P (look P d))
    (hshort : (look P d).index = none → ∀ object, readable P d = some object → Short P object) :
    (perform P (.read {}) d).1 = .answered (readable P d) := by
  have hperform : (perform P (.read {}) d).1 = ended .answered none (readSession P {} d).1 :=
    congrArg Prod.fst (answering_guarded rfl)
  have hname := readActiveName_plain (P := P) d
  rw [hperform, readSession]
  rw [readable, Look.readable] at hshort ⊢
  rcases hindex : (look P d).index with _ | _ | name
  · rw [hindex] at hname hshort
    rw [bind_ok hname]
    exact migrate_plain (fun path hpath he => hP.index (he ▸ hpath)) (hshort rfl)
  · rw [hindex] at hname
    rw [bind_error hname]
    rfl
  · rw [hindex] at hname
    rw [bind_ok hname]
    dsimp only
    by_cases hnil : name = []
    · rw [if_pos hnil, if_pos hnil]
      rfl
    · rw [if_neg hnil, if_neg hnil]
      obtain ⟨d', hlook, hread⟩ := readSnapshot_plain (d := d) name (fun he => hsane (he ▸ hindex))
      rcases hheld : (look P d).held name with _ | _ | object
      · rw [hheld] at hread
        rw [bind_ok hread]
        rfl
      · rw [hheld] at hread
        rw [bind_error hread]
        rfl
      · rw [hheld] at hread
        rw [bind_ok hread, Option.join_some, Option.filter_some]
        dsimp only
        by_cases haccount : accountFileName P object = some name
        · rw [if_pos haccount, if_pos (decide_eq_true haccount)]
          rfl
        · rw [if_neg haccount, if_neg (by simpa using haccount)]
          rfl

/-- The stored login survives calls that fail or are stopped, as long as the index of the active account can be
read or replaced, and it does not come back after a logout. -/
theorem login_survives (hP : Distinct P) (hparsed : Reparsed P) (hsane : Sane P (look P d)) {calls : List Call}
    (hkept : ∀ c ∈ calls, c.Kept P) (hcareful : Each (next P) (Careful P) d calls) :
    Each (next P) (Survives P) d calls ∧
      (∀ before o later, calls = before ++ .clear o :: later →
        (perform P (.clear o) (after (next P) d before)).1 = .accepted true →
        Each (next P) (fun d c => ¬TakesEffect P d c) (after (next P) d (before ++ [.clear o])) later →
        ∀ o object, (perform P (.read o) (after (next P) d calls)).1 ≠ .answered (some object)) ∧
      (((look P (after (next P) d calls)).index = none →
          ∀ object, readable P (after (next P) d calls) = some object → Short P object) →
        (perform P (.read {}) (after (next P) d calls)).1 = .answered (readable P (after (next P) d calls))) := by
  have hkeep : ∀ e c, Sane P (look P e) → Careful P e c ∧ c.Kept P → Sane P (look P (next P e c)) :=
    fun e c hs hc => (survives_step hP hparsed hs hc.2 hc.1).2
  have hboth := hcareful.and_mem hkept
  refine ⟨hboth.imp hsane hkeep (fun e c hs hc => (survives_step hP hparsed hs hc.2 hc.1).1), ?_, fun hshort => ?_⟩
  · rintro before o later rfl hcleared hlater o' object
    have hbefore : Sane P (look P (after (next P) d before)) :=
      (each_append.mp hboth).1.invariant hsane hkeep
    have hout : LoggedOut P (after (next P) d (before ++ [.clear o])) := by
      rw [after_append]
      exact loggedOut_clear hP hbefore hcleared
    have hfinal : LoggedOut P (after (next P) d (before ++ .clear o :: later)) := by
      have happend : before ++ .clear o :: later = (before ++ [.clear o]) ++ later := by simp
      rw [happend, after_append]
      exact hlater.invariant hout (fun e c he hc => he.step hP hc)
    have hnone := (hfinal.readSession hP o').1
    generalize after (next P) d (before ++ .clear o :: later) = e at hnone ⊢
    rcases hr : AuthFiles.readSession P o' e with ⟨r, e'⟩
    rw [hr] at hnone
    rw [show perform P (.read o') e = (ended .answered none r, e') from answering_guarded hr]
    rcases r with (_ | _) | (_ | object')
    · exact nofun
    · exact nofun
    · exact nofun
    · exact absurd rfl (hnone object')
  · exact answer_read hP (hboth.invariant hsane hkeep) hshort

/-! ### A lost login -/

def blocked : SessionWriting := { name := { opened := .fails }, index := { commit := .fails } }

lemma save_plain (hP : Distinct P) (haccount : accountFileName P object = some name) (hshort : Short P object)
    (hsane : Sane P (look P d)) :
    (perform P (.save {} object) d).1 = .accepted true ∧ (look P (next P d (.save {} object))).index = some (some name) := by
  obtain ⟨d', hw⟩ := writeSession_plain haccount hshort d
  have hc : perform P (.save {} object) d = (.accepted true, d') := answering_guarded hw
  have hh := observed_writeSession hP {} haccount hsane d rfl
  rw [hw] at hh
  rw [next, hc]
  exact ⟨rfl, hh.index_ok⟩

lemma lost_login (hP : Distinct P) (haccount : accountFileName P object = some name) (hshort : Short P object)
    (hindex : (look P d).index = some (some name)) :
    (perform P (.save blocked object) d).1 = .accepted false ∧ readable P (next P d (.save blocked object)) = none := by
  have hname := (hP.account _ _ haccount).1
  have hprevious : guarded none (readActiveName P blocked.name) d = (.ok none, d) := by
    have hread : readActiveName P blocked.name d = (.error .thrown, d) := by
      rw [readActiveName, get_bind_apply]
      cases hfile : d.files (indexPath P) with
      | none =>
        rw [look, hfile] at hindex
        cases hindex
      | some bytes => rfl
    rw [guarded, hread]
  obtain ⟨d₁, h₁⟩ := writeSnapshot_plain name hshort d
  have hlook : (look P d₁).index = some (some name) := by
    have hh := observed_writeSnapshot {} object hname d rfl
    rw [h₁] at hh
    exact hh.index.trans hindex
  have hw : writeSession P blocked object d = (.ok false, d₁.remove name) := by
    have hsnapshot : writeSnapshot P blocked.snapshot name object d = (.ok true, d₁) := h₁
    rw [writeSession, haccount]
    dsimp only
    rw [bind_ok hprevious, bind_ok hsnapshot, if_pos rfl, if_neg (Option.some_ne_none name).symm]
    rfl
  have hc : perform P (.save blocked object) d = (.accepted false, d₁.remove name) := answering_guarded hw
  rw [next, hc]
  refine ⟨rfl, ?_⟩
  have hheld : (look P (d₁.remove name)).held name = none := by
    rw [look_remove hname]
    exact Function.update_self ..
  have hnamed : (look P (d₁.remove name)).index = some (some name) := by
    rw [look_remove hname]
    exact hlook
  rw [readable, Look.readable, hnamed]
  dsimp only
  rw [hheld]
  split_ifs <;> rfl

lemma not_survives (hP : Distinct P) (haccount : accountFileName P object = some name) (hshort : Short P object)
    (hsane : Sane P (look P d)) : ¬Each (next P) (Survives P) d [.save {} object, .save blocked object] := by
  rintro ⟨hsave, hsaved, -⟩
  obtain ⟨hok, hindex⟩ := save_plain hP haccount hshort hsane
  obtain ⟨hfalse, hnone⟩ := lost_login hP haccount hshort hindex
  rw [Survives, hok] at hsave
  rw [Survives, hfalse] at hsaved
  dsimp only at hsave hsaved
  rw [hnone, Option.some.inj hsave] at hsaved
  cases hsaved

/-- Files without encryption, names that tell by their first byte whether a secret was given, and JSON that is read
only as it is written. -/
def strictPlatform : Chat.Platform where
  crypto := .transparent
  hmac secret message := ((if secret.length = 14 then 1 else 0) :: message ++ List.replicate 32 0).take 32
  toUtf8 t := t.map UInt16.toUInt8
  fromUtf8 bs := bs.map UInt8.toUInt16
  json := ⟨fun o => Json.write (.object o), fun t => (Json.parse t).filter
    (fun j => decide (Json.write j = t) && t.all (fun u => u < 0x80))⟩
  appSecretKey := []

lemma take_hexName (logicalName secret : Text) :
    (Chat.FileNameHelper.hexName strictPlatform logicalName secret).take 2 =
      [0x30, if secret = [] then 0x31 else 0x30] := by
  have hlen : (Chat.FileNameHelper.macInput logicalName secret).1.length = 14 + secret.length := by
    rw [Chat.FileNameHelper.macInput, List.length_take, Text.length_memory, min_eq_left (by omega), List.length_append]
    rfl
  have hkey : (Chat.FileNameHelper.macInput logicalName secret).1.length = 14 ↔ secret = [] := by
    rw [hlen, ← List.length_eq_zero_iff]
    omega
  change (hexByte (if (Chat.FileNameHelper.macInput logicalName secret).1.length = 14 then 1 else 0) ++ _).take 2 = _
  by_cases h : secret = []
  · rw [if_pos h, if_pos (hkey.mpr h)]
    rfl
  · rw [if_neg h, if_neg (fun hl => h (hkey.mp hl))]
    rfl

lemma base64_ne_nil {bs : Bytes} (h : bs ≠ []) : base64 bs ≠ [] := by
  rcases bs with _ | ⟨a, _ | ⟨b, _ | ⟨c, bs⟩⟩⟩
  · exact absurd rfl h
  · exact nofun
  · exact nofun
  · exact nofun

lemma take_accountFileName {name : Bytes} (h : accountFileName strictPlatform object = some name) :
    name.take 2 = [0x30, 0x30] := by
  rw [accountFileName] at h
  set user := (object.value (key "user")).toObject
  split_ifs at h with hempty
  obtain rfl := Option.some.inj h
  rw [take_hexName, if_neg]
  intro hnil
  have hbytes := List.map_eq_nil_iff.mp hnil
  refine base64_ne_nil (fun hmap => hempty ?_) hbytes
  obtain ⟨-, hname⟩ := List.append_eq_nil_iff.mp (List.map_eq_nil_iff.mp hmap)
  rw [hname]
  rfl

lemma distinct_strictPlatform : Distinct strictPlatform := by
  have hindex : (indexPath strictPlatform).take 2 = [0x30, 0x31] := take_hexName _ _
  refine ⟨fun secret message => ?_, fun object name h => ?_, ?_⟩
  · change 16 ≤ (List.take 32 _).length
    rw [List.length_take, List.length_append, List.length_cons, List.length_replicate]
    omega
  · have hname := take_accountFileName h
    refine ⟨?_, fun hm => ?_⟩
    · rintro rfl
      rw [hindex] at hname
      exact absurd hname (by decide)
    · simp only [legacyPaths, List.mem_cons, List.not_mem_nil, or_false] at hm
      obtain rfl | rfl | rfl := hm
      · rw [take_hexName] at hname
        exact absurd hname (by decide)
      · exact absurd hname (by decide)
      · exact absurd hname (by decide)
  · decide

lemma ascii_strict {t : Text} {j : Json} (h : strictPlatform.json.parse t = some j) :
    Json.write j = t ∧ (t.map UInt16.toUInt8).map UInt8.toUInt16 = t := by
  obtain ⟨-, h⟩ := Option.filter_eq_some_iff.mp h
  rw [Bool.and_eq_true, decide_eq_true_eq] at h
  exact ⟨h.1, Json.Ascii.narrow (fun u hu => by simpa using List.all_eq_true.mp h.2 u hu)⟩

lemma reparsed_strictPlatform : Reparsed strictPlatform := by
  intro text object h
  rw [parsed] at h
  split at h
  · rename_i object' hp
    cases h
    obtain ⟨hwrite, hnarrow⟩ := ascii_strict hp
    have hdocument : strictPlatform.fromUtf8 (document strictPlatform object) = strictPlatform.fromUtf8 text := by
      change ((Json.write (.object object)).map UInt16.toUInt8).map UInt8.toUInt16 = _
      rw [hwrite]
      exact hnarrow
    rw [parsed, hdocument, hp]
  · cases h

def userSession (id username : String) : Json.Object :=
  [(key "user", .object [(key "id", .string (key id)), (key "username", .string (key username))])]

lemma whole_userSession (id username : String) : Json.Whole (.object (userSession id username)) := by
  refine .object (fun field hf => ?_)
  obtain rfl := List.mem_singleton.mp hf
  refine .object (fun field hf => ?_)
  simp only [List.mem_cons, List.not_mem_nil, or_false] at hf
  obtain rfl | rfl := hf
  · exact .string _
  · exact .string _

lemma kept_of_whole (h : Json.Whole (.object object)) : Kept strictPlatform object := by
  have hascii := h.ascii
  have hparse : strictPlatform.json.parse (Json.write (.object object)) = some (.object object) := by
    change (Json.parse _).filter _ = _
    rw [Json.parse_write h, Option.filter_some, if_pos]
    rw [decide_eq_true rfl, Bool.true_and, List.all_eq_true]
    exact fun u hu => decide_eq_true (hascii u hu)
  have hdocument : strictPlatform.fromUtf8 (document strictPlatform object) = Json.write (.object object) :=
    hascii.narrow
  rw [Kept, parsed, hdocument, hparse]

lemma kept_userSession (id username : String) : Kept strictPlatform (userSession id username) :=
  kept_of_whole (whole_userSession id username)

def sampleSession : Json.Object := userSession "1" "a"

lemma short_sampleSession : Short strictPlatform sampleSession := by
  have h : (document strictPlatform sampleSession).length ≤ 100 := by decide
  exact lt_of_le_of_lt h (by omega)

lemma sane_empty (P : Chat.Platform) : Sane P (look P {}) := nofun

lemma accountFileName_sampleSession : ∃ name, accountFileName strictPlatform sampleSession = some name :=
  ⟨_, rfl⟩

theorem login_survives_sample :
    Each (next strictPlatform) (Survives strictPlatform) {} [.save {} sampleSession, .clear {}, .read {}] := by
  have hkept : ∀ c ∈ [Call.save {} sampleSession, .clear {}, .read {}], c.Kept strictPlatform := by
    intro c hc
    simp only [List.mem_cons, List.not_mem_nil, or_false] at hc
    obtain rfl | rfl | rfl := hc
    · exact kept_userSession _ _
    · trivial
    · trivial
  have hcareful : Each (next strictPlatform) (Careful strictPlatform) {}
      [.save {} sampleSession, .clear {}, .read {}] :=
    ⟨fun _ _ _ h => absurd h.1 (by decide), trivial, trivial, trivial⟩
  exact (login_survives distinct_strictPlatform reparsed_strictPlatform (sane_empty _) hkept hcareful).1

theorem login_not_survives : ¬∀ P : Chat.Platform, Distinct P → Reparsed P → ∀ calls : List Call,
    (∀ c ∈ calls, c.Kept P) → Each (next P) (Survives P) {} calls := by
  intro h
  have hkept : ∀ c ∈ [Call.save {} sampleSession, .save blocked sampleSession], c.Kept strictPlatform := by
    intro c hc
    simp only [List.mem_cons, List.not_mem_nil, or_false] at hc
    obtain rfl | rfl := hc
    · exact kept_userSession _ _
    · exact kept_userSession _ _
  obtain ⟨name, haccount⟩ := accountFileName_sampleSession
  exact not_survives distinct_strictPlatform haccount short_sampleSession (sane_empty _)
    (h strictPlatform distinct_strictPlatform reparsed_strictPlatform _ hkept)

end ChatDesktop.Session.AuthFiles
