import ChatDesktop.Session.StoredLogin

namespace ChatDesktop.Session.AuthFiles

open Library Library.Program Library.Reactive Storage

section

variable (P : Chat.Platform)

/-- A session is written, with the index as it is, in such a way that no file is left behind: the temporary files
are removed, the index names what has been written or it is removed, and what the index has named is removed. -/
structure SessionWriting.Tidy (o : SessionWriting) (index : Option (Option Bytes)) (name : Bytes) : Prop where
  snapshot : o.snapshot.Tidy
  stops : index ≠ some (some name) → o.index.outcome ≠ .stops
  orphan : index ≠ some (some name) → o.index.outcome = .fails → o.orphan.Effective
  previous : ∀ other, index = some (some other) → other ≠ [] → other ≠ name → Released o.name o.index o.previous

/-- A session is read, and migrated, in such a way. -/
def SessionReading.Tidy (o : SessionReading) (d : Directory) : Prop :=
  (look P d).index = none → ∀ object name, readable P d = some object → accountFileName P object = some name →
    o.migration.Tidy none name

def Tidy (d : Directory) : Call → Prop
  | .save o object => ∀ name, accountFileName P object = some name → o.Tidy (look P d).index name
  | .read o => o.Tidy P d
  | .clear o => ∀ other, (look P d).index = some (some other) → other ≠ [] → o.Tidy
  | .update o modify => o.reading.Tidy P d ∧ ∀ object object' name name', readable P d = some object →
      accountFileName P object = some name → modify object = some object' → accountFileName P object' = some name' →
      o.writing.Tidy (some (some name)) name'

/-- No file that has been written holds a session, and no temporary file does. -/
def Bare (d : Directory) : Prop :=
  (∀ path ∈ d.written, ∀ file, d.files path = some file → session P file = none) ∧
    ∀ file ∈ d.temporaries, session P file = none

end

variable {P : Chat.Platform} {d : Directory} {v u : Look} {name : Bytes} {object : Json.Object}
  {s : Option Json.Object}

structure Traced (P : Chat.Platform) (v : Look) : Prop where
  sane : Sane P v
  names : ∀ q ∈ v.written, ∃ object, accountFileName P object = some q
  held : ∀ q ∈ v.written, ∀ object, v.held q = some (some object) → v.index = some (some q)
  strewn : ∀ s ∈ v.strewn, s = none

lemma Traced.name_ne_nil (hP : Distinct P) (h : Traced P v) {q : Bytes} (hq : q ∈ v.written) : q ≠ [] := by
  rintro rfl
  obtain ⟨object, ho⟩ := h.names [] hq
  cases (hP.valid ho).1

lemma Traced.strewing (h : Traced P v) {t : List (Option Json.Object)} (ht : t = v.strewn ∨ t = none :: v.strewn) :
    Traced P (v.strewing t) := by
  refine ⟨h.sane, h.names, h.held, fun s hs => ?_⟩
  obtain rfl | rfl := ht
  · exact h.strewn s hs
  · obtain rfl | hm := List.mem_cons.mp hs
    · rfl
    · exact h.strewn s hm

lemma Traced.wrote (hP : Distinct P) (h : Traced P v) {o : SessionWriting} {r : Except Halt Bool}
    (haccount : accountFileName P object = some name) (htidy : o.Tidy v.index name) (hw : Wrote P o name s v r u) :
    Traced P u := by
  have hsane : Sane P u := hw.sane hP haccount h.sane
  have hnames : ∀ q ∈ name :: v.written, ∃ object, accountFileName P object = some q := by
    intro q hq
    obtain rfl | hq := List.mem_cons.mp hq
    · exact ⟨object, haccount⟩
    · exact h.names q hq
  cases hw with
  | left hr ht => exact h.strewing (ht htidy.snapshot)
  | interrupted ht =>
    obtain ⟨rfl, hstops⟩ := ht htidy.snapshot
    have hindex : v.index = some (some name) := by_contra (fun hi => htidy.stops hi hstops)
    refine ⟨hsane, hnames, fun q hq object' hheld => ?_, h.strewn⟩
    obtain rfl | hne := eq_or_ne q name
    · exact hindex
    · exact h.held q ((List.mem_cons.mp hq).resolve_left hne) object' ((Function.update_of_ne hne _ _).symm.trans hheld)
  | named hr ht hname hu hother =>
    obtain rfl := ht htidy.snapshot
    refine ⟨hsane, hu.written ▸ hnames, fun q hq object' hheld => ?_, hu.strewn ▸ h.strewn⟩
    obtain rfl | hne := eq_or_ne q name
    · exact hu.index
    · rw [hu.written] at hq
      have hq' := (List.mem_cons.mp hq).resolve_left hne
      have hv : v.held q = some (some object') := by
        obtain hkept | hnone := hu.held q
        · exact (Function.update_of_ne hne _ _).symm.trans (hkept.symm.trans hheld)
        · cases hnone.symm.trans hheld
      have hindex := h.held q hq' object' hv
      have hnil := h.name_ne_nil hP hq'
      cases (hother q hindex hnil hne (htidy.previous q hindex hnil hne)).symm.trans hheld
  | renounced hr ht hread hindex hu =>
    obtain rfl := ht htidy.snapshot
    have hothers : ∀ q ∈ name :: v.written, q ≠ name → ∀ object', v.held q = some (some object') →
        v.index = some (some q) := fun q hq hne => h.held q ((List.mem_cons.mp hq).resolve_left hne)
    obtain ⟨rfl, horphan⟩ | rfl := hu
    · have hnamed : v.index = some (some name) := by_contra (fun hi => horphan (htidy.orphan hi hindex))
      refine ⟨hsane, hnames, fun q hq object' hheld => ?_, h.strewn⟩
      obtain rfl | hne := eq_or_ne q name
      · exact hnamed
      · exact hothers q hq hne object' ((Function.update_of_ne hne _ _).symm.trans hheld)
    · refine ⟨hsane, hnames, fun q hq object' hheld => ?_, h.strewn⟩
      obtain rfl | hne := eq_or_ne q name
      · cases (Function.update_self ..).symm.trans hheld
      · refine hothers q hq hne object' ?_
        exact (Function.update_of_ne hne _ _).symm.trans ((Function.update_of_ne hne _ _).symm.trans hheld)

lemma Traced.sessionRead (hP : Distinct P) (h : Traced P v) {o : SessionReading}
    {r : Except Halt (Option Json.Object)}
    (htidy : v.index = none → ∀ object name, v.readable P = some object → accountFileName P object = some name →
      o.migration.Tidy none name) (hr : SessionRead P o v r u) : Traced P u := by
  cases hr with
  | answered h' => exact h
  | failed e => exact h
  | moved hindex hreadable hname hu =>
    refine h.wrote hP hname ?_ hu
    rw [hindex]
    exact htidy hindex _ _ hreadable hname

lemma SessionRead.index {o : SessionReading} {object : Json.Object}
    (hr : SessionRead P o v (.ok (some object)) u) : v.readable P = some object ∧
      ∃ name, accountFileName P object = some name ∧ u.index = some (some name) := by
  generalize hx : Except.ok (some object) = x at hr
  cases hr with
  | answered h =>
    cases hx
    obtain h | ⟨h, hindex⟩ := h
    · cases h
    · refine ⟨h.symm, ?_⟩
      rw [Look.readable] at h
      rcases hi : v.index with _ | _ | name
      · exact absurd hi hindex
      · rw [hi] at h
        cases h
      · exact ⟨name, account_of_readable (by rw [Look.readable, h]) hi, rfl⟩
  | failed e => cases hx
  | @moved object' name r u hindex hreadable hname hu =>
    rcases r with (_ | _) | (_ | _)
    · cases hx
    · cases hx
    · cases hx
    · cases hx
      exact ⟨hreadable, name, hname, hu.index_ok⟩

lemma Traced.cleared (hP : Distinct P) (h : Traced P v) {o : Clearing} {r : Except Halt Bool}
    (htidy : ∀ other, v.index = some (some other) → other ≠ [] → o.Tidy) (hc : Cleared P o v r u) :
    Traced P u ∧ (r = .ok true → ∀ q ∈ u.written, ∀ object, u.held q ≠ some (some object)) := by
  cases hc with
  | left hr => exact ⟨h, fun he => absurd he hr⟩
  | cleared hr hpaths hu hother =>
    have hnone : ∀ q ∈ u.written, ∀ object, u.held q ≠ some (some object) := by
      intro q hq object hheld
      rw [hu.written] at hq
      have hv : v.held q = some (some object) := by
        obtain hkept | hnone := hu.held q
        · exact hkept.symm.trans hheld
        · cases hnone.symm.trans hheld
      have hindex := h.held q hq object hv
      have hnil := h.name_ne_nil hP hq
      cases (hother q hindex hnil (htidy q hindex hnil)).symm.trans hheld
    refine ⟨⟨?_, fun q hq => h.names q (hu.written ▸ hq), fun q hq object hheld => ?_, hu.strewn ▸ h.strewn⟩, fun _ => hnone⟩
    · rw [Sane, hu.index]
      exact fun he => hP.indexPath_ne_nil (Option.some.inj (Option.some.inj he)).symm
    · exact absurd hheld (hnone q hq object)

/-! ### Calls -/

lemma traced_writeSession (hP : Distinct P) (h : Traced P (look P d)) {o : SessionWriting} {r : Except Halt Bool}
    {d' : Directory} (htidy : ∀ name, accountFileName P object = some name → o.Tidy (look P d).index name)
    (hw : writeSession P o object d = (r, d')) : Traced P (look P d') := by
  cases haccount : accountFileName P object with
  | none =>
    have hh := observed_writeSession_nameless (v := look P d) o haccount d rfl
    rw [hw] at hh
    rw [hh.2]
    exact h
  | some name =>
    have hh := observed_writeSession hP o haccount h.sane d rfl
    rw [hw] at hh
    exact h.wrote hP haccount (htidy name haccount) hh

lemma traced_readSession (hP : Distinct P) (h : Traced P (look P d)) {o : SessionReading} (htidy : o.Tidy P d)
    {r : Except Halt (Option Json.Object)} {d' : Directory} (hr : readSession P o d = (r, d')) :
    Traced P (look P d') := by
  have hh := observed_readSession hP o h.sane d rfl
  rw [hr] at hh
  exact h.sessionRead hP htidy hh

lemma Traced.step (hP : Distinct P) {c : Call} (h : Traced P (look P d)) (htidy : Tidy P d c) :
    Traced P (look P (next P d c)) := by
  cases c with
  | save o object =>
    rcases hw : writeSession P o object d with ⟨r, d'⟩
    have hc : perform P (.save o object) d = (ended .accepted false r, d') := answering_guarded hw
    rw [next, hc]
    exact traced_writeSession hP h htidy hw
  | read o =>
    rcases hr : readSession P o d with ⟨r, d'⟩
    have hc : perform P (.read o) d = (ended .answered none r, d') := answering_guarded hr
    rw [next, hc]
    exact traced_readSession hP h htidy hr
  | clear o =>
    rcases hr : clearSession P o d with ⟨r, d'⟩
    have hc : perform P (.clear o) d = (ended .accepted false r, d') := answering_guarded hr
    have hh := observed_clearSession hP o h.sane d rfl
    rw [hr] at hh
    rw [next, hc]
    exact (h.cleared hP htidy hh).1
  | update o modify =>
    rcases hr : readSession P o.reading d with ⟨r, d₁⟩
    have h₁ := traced_readSession hP h htidy.1 hr
    have hread := observed_readSession hP o.reading h.sane d rfl
    rw [hr] at hread
    rcases hu : updateSession P o modify d with ⟨r', d'⟩
    have hc : perform P (.update o modify) d = (ended .accepted false r', d') := answering_guarded hu
    rw [next, hc]
    have hsame : d' = d₁ → Traced P (look P d') := fun he => he ▸ h₁
    rcases r with e | _ | object
    · exact hsame (congrArg Prod.snd (hu.symm.trans (bind_error hr)))
    · exact hsame (congrArg Prod.snd (hu.symm.trans (bind_ok hr)))
    · cases hm : modify object with
      | none =>
        have hfalse : updateSession P o modify d = (.ok false, d₁) := by
          rw [updateSession, bind_ok hr]
          dsimp only
          rw [hm]
          rfl
        exact hsame (congrArg Prod.snd (hu.symm.trans hfalse))
      | some object' =>
        obtain ⟨hreadable, name, hname, hindex⟩ := SessionRead.index hread
        have hw : writeSession P o.writing object' d₁ = (r', d') := by
          rw [← hu, updateSession, bind_ok hr]
          dsimp only
          rw [hm]
        refine traced_writeSession hP h₁ (fun name' hname' => ?_) hw
        rw [hindex]
        exact htidy.2 object object' name name' hreadable hname hm hname'

/-- After a logout no session is left, as long as no call has left anything behind. -/
theorem bare_of_tidy (hP : Distinct P) (hsane : Sane P (look P d)) (hwritten : d.written = [])
    (htemporaries : d.temporaries = []) {calls : List Call} {o : Clearing}
    (htidy : Each (next P) (Tidy P) d (calls ++ [.clear o]))
    (hcleared : (perform P (.clear o) (after (next P) d calls)).1 = .accepted true) :
    Bare P (after (next P) d (calls ++ [.clear o])) := by
  obtain ⟨hcalls, hclear, -⟩ := each_append.mp htidy
  have hstart : Traced P (look P d) := by
    have hnone : (look P d).written = [] := hwritten
    refine ⟨hsane, fun q hq => ?_, fun q hq => ?_, fun s hs => ?_⟩
    · rw [hnone] at hq
      cases hq
    · rw [hnone] at hq
      cases hq
    · rw [look, htemporaries] at hs
      cases hs
  have hbefore : Traced P (look P (after (next P) d calls)) :=
    hcalls.invariant (I := fun d => Traced P (look P d)) hstart (fun _ _ h ht => Traced.step hP h ht)
  rw [after_append]
  generalize after (next P) d calls = e at hbefore hclear hcleared ⊢
  rcases hr : clearSession P o e with ⟨r, e'⟩
  have hc : perform P (.clear o) e = (ended .accepted false r, e') := answering_guarded hr
  have hnext : after (next P) e [.clear o] = e' := congrArg Prod.snd hc
  have hh := observed_clearSession hP o hbefore.sane e rfl
  rw [hr] at hh
  obtain ⟨htraced, hnone⟩ := hbefore.cleared hP hclear hh
  have hok : r = .ok true := ended_true ((congrArg Prod.fst hc).symm.trans hcleared)
  rw [hnext]
  refine ⟨fun path hpath file hfile => ?_, fun file hfile => htraced.strewn _ (List.mem_map_of_mem hfile)⟩
  obtain ⟨object, haccount⟩ := htraced.names path hpath
  have hheld : (look P e').held path = some (session P file) := by
    rw [look_held (hP.account _ _ haccount).1, hfile]
    rfl
  cases hsession : session P file with
  | none => rfl
  | some object' => exact absurd (hheld.trans (congrArg some hsession)) (hnone hok path hpath object')

/-! ### Left behind -/

def cutOff : SessionWriting := { index := { directory := .stops } }

lemma clear_plain (hindex : (look P d).index = some (some name)) : (perform P (.clear {}) d).1 = .accepted true := by
  have hname := readActiveName_plain (P := P) d
  rw [hindex] at hname
  have hempty : writeActiveName P {} [] d = (.ok true, d.put (indexPath P) []) := rfl
  obtain ⟨d₁, h₁⟩ := removeNamed_plain [] (some name) (d.put (indexPath P) [])
  obtain ⟨d₂, h₂⟩ := removeAll_plain (legacyPaths P) d₁
  have hclear : clearSession P {} d = (.ok true, d₂) := by
    rw [clearSession, bind_ok hname, bind_ok hempty, if_pos rfl, bind_ok h₁, bind_ok h₂]
    rfl
  exact congrArg Prod.fst (answering_guarded hclear)

lemma save_cutOff (hP : Distinct P) {other : Bytes} (haccount : accountFileName P object = some name)
    (hindex : (look P d).index = some (some other)) (hne : name ≠ other) (hshort : Short P object)
    (hkept : Kept P object) : (look P (next P d (.save cutOff object))).index = some (some other) ∧
      (look P (next P d (.save cutOff object))).held name = some (some object) ∧
      name ∈ (look P (next P d (.save cutOff object))).written := by
  have hname := (hP.account _ _ haccount).1
  have hprevious : guarded none (readActiveName P cutOff.name) d = (.ok (some other), d) := by
    have hread := readActiveName_plain (P := P) d
    rw [hindex] at hread
    have hread' : readActiveName P cutOff.name d = (.ok (some other), d) := hread
    rw [guarded, hread']
  obtain ⟨d₁, h₁⟩ := writeSnapshot_plain name hshort d
  have hsnapshot : writeSnapshot P cutOff.snapshot name object d = (.ok true, d₁) := h₁
  have hw : writeSession P cutOff object d = (.error .stopped, d₁) := by
    rw [writeSession, haccount]
    dsimp only
    rw [bind_ok hprevious, bind_ok hsnapshot, if_pos rfl, if_neg (fun h => hne (Option.some.inj h).symm)]
    rfl
  have hc : perform P (.save cutOff object) d = (.stopped, d₁) := answering_guarded hw
  have hh : Snapped {} (look P d) name (parsed P (document P object)) (.ok true) (look P d₁) := by
    have h := observed_writeSnapshot {} object hname d rfl
    rwa [h₁] at h
  rw [next, hc]
  rw [Kept] at hkept
  rw [hkept] at hh
  generalize look P d₁ = u at hh
  cases hh with
  | committed hr ht => exact ⟨hindex, Function.update_self .., List.mem_cons_self⟩
  | left hr ht => exact absurd rfl hr

lemma not_bare (hP : Distinct P) {object' : Json.Object} {name' : Bytes} (haccount : accountFileName P object = some name)
    (haccount' : accountFileName P object' = some name') (hne : name' ≠ name) (hshort : Short P object)
    (hshort' : Short P object') (hkept' : Kept P object') (hsane : Sane P (look P d)) :
    (perform P (.clear {}) (after (next P) d [.save {} object, .save cutOff object'])).1 = .accepted true ∧
      ¬Bare P (after (next P) d ([.save {} object, .save cutOff object'] ++ [.clear {}])) := by
  obtain ⟨-, hindex⟩ := save_plain hP haccount hshort hsane
  obtain ⟨hindex', hheld, hwritten⟩ := save_cutOff hP haccount' hindex hne hshort' hkept'
  rw [after_append]
  change (perform P (.clear {}) (next P (next P d (.save {} object)) (.save cutOff object'))).1 = _ ∧
    ¬Bare P (next P (next P (next P d (.save {} object)) (.save cutOff object')) (.clear {}))
  generalize next P (next P d (.save {} object)) (.save cutOff object') = e at hindex' hheld hwritten ⊢
  have hok := clear_plain hindex'
  refine ⟨hok, fun hbare => ?_⟩
  have hsane' : Sane P (look P e) := by
    rw [Sane, hindex']
    exact fun he => (hP.account _ _ haccount).1 (Option.some.inj (Option.some.inj he))
  rcases hr : clearSession P {} e with ⟨r, e'⟩
  have hc : perform P (.clear {}) e = (ended .accepted false r, e') := answering_guarded hr
  have hh := observed_clearSession hP {} hsane' e rfl
  rw [hr] at hh
  have htrue : r = .ok true := ended_true ((congrArg Prod.fst hc).symm.trans hok)
  have hnext : next P e (.clear {}) = e' := congrArg Prod.snd hc
  rw [hnext] at hbare
  generalize hu : look P e' = u at hh
  cases hh with
  | left hne => exact absurd htrue hne
  | cleared hends hpaths hthin hother =>
    obtain ⟨hname, hlegacy⟩ := hP.account _ _ haccount'
    have hkept : (look P e').held name' = some (some object') := by
      rw [hu, hthin.others name', ← hheld]
      · rfl
      · intro hm
        obtain h | h := hpaths name' hm
        · rw [hindex'] at h
          exact hne (Option.some.inj (Option.some.inj h)).symm
        · exact hlegacy h
    rw [look_held hname] at hkept
    obtain ⟨file, hfile, hsession⟩ := Option.map_eq_some_iff.mp hkept
    have hmem : name' ∈ e'.written := by
      change name' ∈ (look P e').written
      rw [hu, hthin.written]
      exact hwritten
    cases hsession.symm.trans (hbare.1 name' hmem file hfile)

lemma tidy_default (index : Option (Option Bytes)) (name : Bytes) : ({} : SessionWriting).Tidy index name := by
  have hdone : ¬Outcome.Stopped .done := by rintro (h | h) <;> cases h
  refine ⟨⟨⟨hdone, fun k => nofun⟩, ?_, rfl, rfl⟩, fun _ => nofun, fun _ => nofun, fun _ _ _ _ => ⟨nofun, fun _ => ⟨nofun, Or.inl rfl⟩⟩⟩
  intro x hx
  simp only [List.mem_cons, List.not_mem_nil, or_false, or_self] at hx
  subst hx
  exact hdone

theorem bare_of_tidy_sample :
    Bare strictPlatform (after (next strictPlatform) {} ([.save {} sampleSession] ++ [.clear {}])) := by
  have htidy : Each (next strictPlatform) (Tidy strictPlatform) {} ([.save {} sampleSession] ++ [.clear {}]) :=
    ⟨fun name _ => tidy_default _ name, fun _ _ _ _ => ⟨nofun, fun _ => ⟨nofun, Or.inl rfl⟩⟩, trivial⟩
  obtain ⟨name, haccount⟩ := accountFileName_sampleSession
  obtain ⟨-, hindex⟩ := save_plain distinct_strictPlatform haccount short_sampleSession (sane_empty _)
  exact bare_of_tidy distinct_strictPlatform (sane_empty _) rfl rfl htidy (clear_plain hindex)

def otherSession : Json.Object := userSession "2" "bb"

lemma short_otherSession : Short strictPlatform otherSession := by
  have h : (document strictPlatform otherSession).length ≤ 100 := by decide
  exact lt_of_le_of_lt h (by omega)

theorem not_bare_cutOff : ¬∀ P : Chat.Platform, Distinct P → ∀ (calls : List Call) (o : Clearing),
    (perform P (.clear o) (after (next P) {} calls)).1 = .accepted true →
    Bare P (after (next P) {} (calls ++ [.clear o])) := by
  intro h
  have hne : accountFileName strictPlatform otherSession ≠ accountFileName strictPlatform sampleSession := by
    decide
  obtain ⟨name, haccount⟩ := accountFileName_sampleSession
  obtain ⟨name', haccount'⟩ : ∃ name', accountFileName strictPlatform otherSession = some name' := ⟨_, rfl⟩
  have hnames : name' ≠ name := fun he => hne (haccount'.trans (he ▸ haccount.symm))
  obtain ⟨hcleared, hnot⟩ := not_bare distinct_strictPlatform haccount haccount' hnames short_sampleSession
    short_otherSession (kept_userSession _ _) (sane_empty _)
  exact hnot (h strictPlatform distinct_strictPlatform _ _ hcleared)

end ChatDesktop.Session.AuthFiles
