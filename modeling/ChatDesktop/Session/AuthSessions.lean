import ChatDesktop.Session.AuthEffects

namespace ChatDesktop.Session.AuthFiles

open Library Library.Program Storage

variable {P : Chat.Platform} {d : Directory} {v u : Look} {name path bytes : Bytes} {object : Json.Object}

/-! ### Writing -/

structure Released (name : IndexReading) (index : IndexWriting) (removal : Outcome) : Prop where
  stopped : index.outcome ≠ .stopsAfter
  removed : index.outcome = .done → name.outcome ≠ .fails ∧ removal.Effective

/-- How the session `s` can be written to the file of its account. -/
inductive Wrote (P : Chat.Platform) (o : SessionWriting) (name : Bytes) (s : Option Json.Object) (v : Look) :
    Except Halt Bool → Look → Prop
  /-- The file has not been written. -/
  | left {r : Except Halt Bool} {t : List (Option Json.Object)} (hr : r ≠ .ok true)
      (ht : o.snapshot.Tidy → t = v.strewn ∨ t = none :: v.strewn) : Wrote P o name s v r (v.strewing t)
  /-- The process has stopped before the index. -/
  | interrupted {t : List (Option Json.Object)} (ht : o.snapshot.Tidy → t = v.strewn ∧ o.index.outcome = .stops) :
      Wrote P o name s v (.error .stopped) ((v.keep name s).strewing t)
  /-- The index names the file, and others are gone. -/
  | named {r : Except Halt Bool} {t : List (Option Json.Object)} {paths : List Bytes} {u : Look}
      (hr : r = .ok true ∨ r = .error .stopped) (ht : o.snapshot.Tidy → t = v.strewn) (hname : name ∉ paths)
      (hu : Thinned paths (((v.keep name s).strewing t).name name) u)
      (hother : ∀ other, v.index = some (some other) → other ≠ [] → other ≠ name →
        Released o.name o.index o.previous → u.held other = none) : Wrote P o name s v r u
  /-- The index could not be written, and the file has been removed. -/
  | renounced {r : Except Halt Bool} {t : List (Option Json.Object)} {u : Look} (hr : r = .ok false ∨ r = .error .stopped)
      (ht : o.snapshot.Tidy → t = v.strewn) (hread : v.index = some (some name) → o.name.outcome = .fails)
      (hindex : o.index.outcome = .fails) (hu : u = (v.keep name s).strewing t ∧ ¬o.orphan.Effective ∨
        u = ((v.keep name s).strewing t).drop name) : Wrote P o name s v r u

lemma observed_removeNamed (o : Outcome) (kept : Bytes) {previous : Option Bytes} (h : previous ≠ some (indexPath P)) :
    Observed (look P) v (removeNamed o kept previous) (fun r u => (r = .ok () ∨ r = .error .stopped) ∧
      (∃ paths, (∀ q ∈ paths, previous = some q ∧ q ≠ [] ∧ q ≠ kept) ∧ Thinned paths v u) ∧
      ∀ other, previous = some other → other ≠ [] → other ≠ kept → o.Effective → u.held other = none) := by
  cases previous with
  | none => exact Observed.pure ⟨Or.inl rfl, ⟨[], nofun, .refl _ _⟩, nofun⟩
  | some other =>
    refine Observed.ite (fun hc => ?_) (fun hc => ?_)
    · refine (observed_remove (fun he => h (congrArg some he))).imp (fun r u hu => ⟨hu.ends, ⟨_, ?_, hu.thinned⟩, ?_⟩)
      · intro q hq
        obtain rfl := List.mem_singleton.mp hq
        exact ⟨rfl, hc⟩
      · rintro _ ⟨⟩ - - ho
        rw [hu.done ho]
        exact Function.update_self ..
    · refine Observed.pure ⟨Or.inl rfl, ⟨[], nofun, .refl _ _⟩, ?_⟩
      rintro _ ⟨⟩ hne hkept
      exact absurd ⟨hne, hkept⟩ hc

structure Previous (o : IndexReading) (v : Look) (previous : Option Bytes) : Prop where
  index : ∀ other, previous = some other → other ≠ [] → v.index = some (some other)
  read : ∀ other, v.index = some (some other) → o.outcome ≠ .fails → previous = some other

lemma Named.previous {o : IndexReading} {previous : Option Bytes} (h : Named o v (.ok previous)) :
    Previous o v previous := by
  cases h with
  | absent h => exact ⟨nofun, fun other ho => by rw [h] at ho; cases ho⟩
  | named h ho =>
    refine ⟨fun other he _ => by rw [h, he], fun other he _ => ?_⟩
    rw [h] at he
    exact Option.some.inj he
  | missed h ho =>
    refine ⟨fun other he hne => absurd (Option.some.inj he).symm hne, fun other he hn => absurd ?_ hn⟩
    rw [IndexReading.outcome, ho.1, ho.2]
    rfl

lemma Named.previous_none {o : IndexReading} (h : Named o v (.error .thrown)) : Previous o v none := by
  refine ⟨nofun, fun other he hn => ?_⟩
  cases h with
  | invalid h =>
    rw [h] at he
    cases he
  | closed ho =>
    refine absurd ?_ hn
    rw [IndexReading.outcome, ho]
    rfl

lemma observed_named (hP : Distinct P) (o : SessionWriting) {t : List (Option Json.Object)} {previous : Option Bytes}
    (hindex : v.index ≠ some (some (indexPath P))) (hprevious : Previous o.name v previous)
    (ht : o.snapshot.Tidy → t = v.strewn)
    (hother : ∀ other, v.index = some (some other) → other ≠ name → Released o.name o.index o.previous →
      o.name.outcome ≠ .fails ∧ o.previous.Effective) :
    Observed (look P) (((v.keep name s).strewing t).name name) (do
      removeNamed o.previous name previous
      removeAll o.legacy ((legacyPaths P).filter (fun legacy => !decide (legacy = name)))
      pure true) (Wrote P o name s v) := by
  have hnamed : previous ≠ some (indexPath P) := fun h => hindex (hprevious.index _ h hP.indexPath_ne_nil)
  have hlegacy : ∀ path ∈ (legacyPaths P).filter (fun legacy => !decide (legacy = name)), path ≠ indexPath P := by
    rintro path hpath rfl
    exact hP.index (List.mem_of_mem_filter hpath)
  have hkept : name ∉ (legacyPaths P).filter (fun legacy => !decide (legacy = name)) := by simp
  refine Observed.bind (observed_removeNamed o.previous name hnamed) ?_ ?_
  · rintro _ u ⟨-, ⟨paths, hpaths, hu⟩, hnone⟩
    have hmem : name ∉ paths := fun hm => (hpaths name hm).2.2 rfl
    have hgone : ∀ w, Thinned ((legacyPaths P).filter (fun legacy => !decide (legacy = name))) u w →
        ∀ other, v.index = some (some other) → other ≠ [] → other ≠ name → Released o.name o.index o.previous →
          w.held other = none := by
      intro w hw other he hnil hne hrel
      obtain ⟨hread, hgone⟩ := hother other he hne hrel
      have hu' := hnone other (hprevious.read other he hread) hnil hne hgone
      obtain h | h := hw.held other
      · exact h.trans hu'
      · exact h
    refine Observed.bind (observed_removeAll o.legacy hlegacy) ?_ ?_
    · rintro _ w ⟨-, hw⟩
      exact Observed.pure (.named (Or.inl rfl) ht (by simp [hmem]) (hu.trans hw) (hgone w hw))
    · rintro e w ⟨he, hw⟩
      obtain he | he := he
      · cases he
      · cases he
        exact .named (Or.inr rfl) ht (by simp [hmem]) (hu.trans hw) (hgone w hw)
  · rintro e u ⟨he, ⟨paths, hpaths, hu⟩, hnone⟩
    obtain he | he := he
    · cases he
    · cases he
      refine .named (Or.inr rfl) ht (fun hm => (hpaths name hm).2.2 rfl) hu (fun other he hnil hne hrel => ?_)
      obtain ⟨hread, hgone⟩ := hother other he hne hrel
      exact hnone other (hprevious.read other he hread) hnil hne hgone

lemma observed_writeSession (hP : Distinct P) (o : SessionWriting) (haccount : accountFileName P object = some name)
    (hindex : v.index ≠ some (some (indexPath P))) :
    Observed (look P) v (writeSession P o object) (Wrote P o name (parsed P (document P object)) v) := by
  set s := parsed P (document P object) with hs
  obtain ⟨hname, hlegacy⟩ := hP.account _ _ haccount
  obtain ⟨hlength, hvalid⟩ := hP.valid haccount
  have hnil : name ≠ [] := by
    rintro rfl
    cases hlength
  rw [writeSession, haccount]
  dsimp only
  refine Observed.bind (Q := fun r u => u = v ∧ ∀ previous, r = .ok previous → Previous o.name v previous) ?_ ?_ ?_
  · refine observed_guarded (observed_readActiveName o.name) ?_ ?_ ?_
    · rintro previous u ⟨rfl, h⟩
      refine ⟨rfl, fun previous' he => ?_⟩
      cases he
      exact h.previous
    · rintro u ⟨rfl, h⟩
      refine ⟨rfl, fun previous' he => ?_⟩
      cases he
      exact h.previous_none
    · rintro u ⟨rfl, -⟩
      refine ⟨rfl, fun previous' he => ?_⟩
      cases he
  · rintro previous u ⟨rfl, h⟩
    have hprev := h previous rfl
    refine Observed.bind (observed_writeSnapshot o.snapshot object hname) ?_ ?_
    · rintro a w hw
      cases hw with
      | @committed t hr ht =>
        obtain rfl : a = true := by
          obtain hr | hr := hr
          · exact Except.ok.inj hr
          · cases hr
        refine Observed.ite (fun _ => ?_) (fun hn => absurd rfl hn)
        have ht' : o.snapshot.Tidy → t = u.strewn := fun h => (ht h).2
        by_cases hsame : previous = some name
        · have hu : (u.keep name s).strewing t = ((u.keep name s).strewing t).name name := by
            rw [Look.name]
            exact congrArg (fun i => { (u.keep name s).strewing t with index := i }) (hprev.index name hsame hnil)
          rw [if_pos hsame, hu]
          refine observed_named hP o hindex hprev ht' (fun other he hne => ?_)
          rw [hprev.index name hsame hnil] at he
          exact absurd (Option.some.inj (Option.some.inj he)).symm hne
        · rw [if_neg hsame]
          have hread : u.index = some (some name) → o.name.outcome = .fails := fun h =>
            by_contra (fun hn => hsame (hprev.read name h hn))
          refine Observed.bind (observed_writeActiveName o.index hvalid) ?_ ?_
          · rintro a w (h | h | h | h)
            · refine Observed.ite (fun _ => ?_) (fun hn => absurd rfl hn)
              exact observed_named hP o hindex hprev ht' (fun other _ _ hrel => hrel.removed h)
            · refine Observed.ite (fun hb => absurd hb Bool.false_ne_true) (fun _ => ?_)
              refine Observed.bind (observed_remove hname) ?_ ?_
              · rintro _ w hw
                exact Observed.pure (.renounced (Or.inl rfl) ht' hread h hw.orphan)
              · rintro e w hw
                obtain he | he := hw.ends
                · cases he
                · cases he
                  exact .renounced (Or.inr rfl) ht' hread h hw.orphan
          · rintro e w (h | h | h | h)
            · exact .interrupted (fun ho => ⟨ht' ho, h⟩)
            · exact .named (Or.inr rfl) ht' List.not_mem_nil (.refl _ _) (fun _ _ _ _ hrel => absurd h hrel.stopped)
      | left hr ht =>
        refine Observed.ite (fun hb => absurd (hb ▸ rfl) hr) (fun _ => Observed.pure (.left (fun he => ?_) ht))
        exact Bool.false_ne_true (Except.ok.inj he)
    · rintro e w hw
      cases hw with
      | committed hr ht =>
        obtain hr | hr := hr
        · cases hr
        · rw [hr]
          refine .interrupted (fun h => ?_)
          cases hr.symm.trans (ht h).1
      | left hr ht =>
        refine .left (fun he => ?_) ht
        cases he
  · rintro e u ⟨rfl, -⟩
    refine .left (t := u.strewn) (fun he => ?_) (fun _ => Or.inl rfl)
    cases he

lemma observed_writeSession_nameless (o : SessionWriting) (haccount : accountFileName P object = none) :
    Observed (look P) v (writeSession P o object) (fun r u => r = .error .thrown ∧ u = v) := by
  rw [writeSession, haccount]
  exact Observed.throw ⟨rfl, rfl⟩

/-! ### Reading -/

/-- The answer of a migration that ends its writing with `r`. -/
def migrated (object : Json.Object) : Except Halt Bool → Except Halt (Option Json.Object)
  | .ok true => .ok (some object)
  | .ok false => .error .thrown
  | .error e => .error e

inductive Migrated (P : Chat.Platform) (o : SessionReading) (paths : List Bytes) (v : Look) :
    Except Halt (Option Json.Object) → Look → Prop
  | absent (h : paths.findSome? v.held = none) : Migrated P o paths v (.ok none) v
  | failed (e : Halt) : Migrated P o paths v (.error e) v
  | moved {object : Json.Object} {name : Bytes} {r : Except Halt Bool} {u : Look}
      (hheld : paths.findSome? v.held = some (some object)) (hname : accountFileName P object = some name)
      (hu : Wrote P o.migration name (parsed P (document P object)) v r u) :
      Migrated P o paths v (migrated object r) u

lemma observed_migrate (hP : Distinct P) (o : SessionReading) (hindex : v.index = none) {paths : List Bytes}
    (hpaths : ∀ path ∈ paths, path ≠ indexPath P) :
    Observed (look P) v (migrate P o paths) (Migrated P o paths v) := by
  induction paths with
  | nil => exact Observed.pure (.absent rfl)
  | cons path paths ih =>
    refine Observed.bind (observed_readSnapshot (o.snapshot path) (hpaths path List.mem_cons_self)) ?_ ?_
    · rintro x u ⟨rfl, hx⟩
      have hheld := hx x rfl
      cases x with
      | none =>
        refine (ih (fun q hq => hpaths q (List.mem_cons_of_mem _ hq))).imp ?_
        have hfind : (path :: paths).findSome? u.held = paths.findSome? u.held := by
          rw [List.findSome?_cons, hheld]
          rfl
        rintro r w (h | e | ⟨hheld', hname, hu⟩)
        · exact .absent (hfind.trans h)
        · exact .failed e
        · exact .moved (hfind.trans hheld') hname hu
      | some object =>
        have hfind : (path :: paths).findSome? u.held = some (some object) := by
          rw [List.findSome?_cons, hheld]
          rfl
        cases hname : accountFileName P object with
        | none =>
          refine Observed.bind (observed_writeSession_nameless o.migration hname) ?_ ?_
          · rintro a w ⟨ha, -⟩
            cases ha
          · rintro e w ⟨-, rfl⟩
            exact .failed e
        | some name =>
          have hne : u.index ≠ some (some (indexPath P)) := by
            rw [hindex]
            exact nofun
          refine Observed.bind (observed_writeSession hP o.migration hname hne) ?_ ?_
          · rintro (_ | _) w hw
            · exact Observed.throw (.moved (r := .ok false) hfind hname hw)
            · exact Observed.pure (.moved (r := .ok true) hfind hname hw)
          · rintro e w hw
            exact .moved (r := .error e) hfind hname hw
    · rintro e u ⟨rfl, -⟩
      exact .failed e

inductive SessionRead (P : Chat.Platform) (o : SessionReading) (v : Look) :
    Except Halt (Option Json.Object) → Look → Prop
  | answered {x : Option Json.Object} (h : x = none ∨ x = v.readable P ∧ v.index ≠ none) : SessionRead P o v (.ok x) v
  | failed (e : Halt) : SessionRead P o v (.error e) v
  | moved {object : Json.Object} {name : Bytes} {r : Except Halt Bool} {u : Look} (hindex : v.index = none)
      (hreadable : v.readable P = some object) (hname : accountFileName P object = some name)
      (hu : Wrote P o.migration name (parsed P (document P object)) v r u) : SessionRead P o v (migrated object r) u

lemma observed_readSession (hP : Distinct P) (o : SessionReading) (hindex : v.index ≠ some (some (indexPath P))) :
    Observed (look P) v (readSession P o) (SessionRead P o v) := by
  refine Observed.bind (observed_readActiveName o.name) ?_ ?_
  · rintro name u ⟨rfl, h⟩
    cases name with
    | none =>
      have hnone : u.index = none := by
        cases h with
        | absent h => exact h
      have hlegacy : ∀ path ∈ legacyPaths P, path ≠ indexPath P := by
        rintro path hpath rfl
        exact hP.index hpath
      refine (observed_migrate hP o hnone hlegacy).imp ?_
      rintro r w (h | e | ⟨hheld, hname, hu⟩)
      · exact .answered (Or.inl rfl)
      · exact .failed e
      · refine .moved hnone ?_ hname hu
        rw [Look.readable, hnone]
        dsimp only
        rw [hheld, Option.join_some, Option.filter_some, hname]
        rfl
    | some name =>
      refine Observed.ite (fun _ => Observed.pure (.answered (Or.inl rfl))) (fun hnil => ?_)
      have hnamed := h.previous.index name rfl hnil
      have hne : name ≠ indexPath P := by
        rintro rfl
        exact hindex hnamed
      refine Observed.bind (observed_readSnapshot (o.snapshot name) hne) ?_ ?_
      · rintro x w ⟨rfl, hx⟩
        have hheld := hx x rfl
        cases x with
        | none => exact Observed.pure (.answered (Or.inl rfl))
        | some object =>
          refine Observed.ite (fun hc => Observed.pure (.answered (Or.inr ⟨?_, ?_⟩))) (fun _ => Observed.throw (.failed _))
          · rw [Look.readable, hnamed]
            dsimp only
            rw [if_neg hnil, hheld, Option.map_some, Option.join_some, Option.filter_some, if_pos (decide_eq_true hc)]
          · rw [hnamed]
            exact nofun
      · rintro e w ⟨rfl, -⟩
        exact .failed e
  · rintro e u ⟨rfl, -⟩
    exact .failed e

/-! ### Clearing -/

/-- As far as the index can be opened, its file is released. -/
def Clearing.Tidy (o : Clearing) : Prop := o.name.opened = .done → Released o.name o.index o.active

inductive Cleared (P : Chat.Platform) (o : Clearing) (v : Look) : Except Halt Bool → Look → Prop
  | left {r : Except Halt Bool} (hr : r ≠ .ok true) : Cleared P o v r v
  | cleared {r : Except Halt Bool} {paths : List Bytes} {u : Look} (hr : r = .ok true ∨ r = .error .stopped)
      (hpaths : ∀ q ∈ paths, v.index = some (some q) ∨ q ∈ legacyPaths P) (hu : Thinned paths (v.name []) u)
      (hother : ∀ other, v.index = some (some other) → other ≠ [] → o.Tidy → u.held other = none) : Cleared P o v r u

lemma observed_clearSession (hP : Distinct P) (o : Clearing) (hindex : v.index ≠ some (some (indexPath P))) :
    Observed (look P) v (clearSession P o) (Cleared P o v) := by
  refine Observed.bind (observed_readActiveName o.name) ?_ ?_
  · rintro name u ⟨rfl, h⟩
    have hprevious := h.previous
    have hopened : u.index = none ∨ o.name.opened = .done := by
      cases h with
      | absent h => exact Or.inl h
      | named h ho => exact Or.inr (IndexReading.opened_of_done ho)
      | missed h ho => exact Or.inr ho.1
    have hrel : ∀ other, u.index = some (some other) → o.Tidy → Released o.name o.index o.active := by
      rintro other he hT
      refine hT (hopened.resolve_left ?_)
      rw [he]
      exact nofun
    have hnamed : name ≠ some (indexPath P) := fun hn => hindex (hprevious.index _ hn hP.indexPath_ne_nil)
    have hlegacy : ∀ path ∈ legacyPaths P, path ≠ indexPath P := by
      rintro path hpath rfl
      exact hP.index hpath
    refine Observed.bind (observed_writeActiveName o.index indexed_nil) ?_ ?_
    · rintro a w (ho | ho | ho | ho)
      · refine Observed.ite (fun _ => ?_) (fun hn => absurd rfl hn)
        refine Observed.bind (observed_removeNamed o.active [] hnamed) ?_ ?_
        · rintro _ u' ⟨-, ⟨paths, hpaths, hu⟩, hnone⟩
          have hnamed : ∀ q ∈ paths ++ legacyPaths P, u.index = some (some q) ∨ q ∈ legacyPaths P := fun q hq =>
            (List.mem_append.mp hq).imp_left (fun hm => hprevious.index q (hpaths q hm).1 (hpaths q hm).2.1)
          have hgone : ∀ w, Thinned (legacyPaths P) u' w → ∀ other, u.index = some (some other) → other ≠ [] → o.Tidy →
              w.held other = none := by
            intro w hw other he hnil hT
            obtain ⟨hread, hgone⟩ := (hrel other he hT).removed ho
            have hu' := hnone other (hprevious.read other he hread) hnil hnil hgone
            obtain h | h := hw.held other
            · exact h.trans hu'
            · exact h
          refine Observed.bind (observed_removeAll o.legacy hlegacy) ?_ ?_
          · rintro _ w ⟨-, hw⟩
            exact Observed.pure (.cleared (Or.inl rfl) hnamed (hu.trans hw) (hgone w hw))
          · rintro e w ⟨he, hw⟩
            obtain he | he := he
            · cases he
            · cases he
              exact .cleared (Or.inr rfl) hnamed (hu.trans hw) (hgone w hw)
        · rintro e u' ⟨he, ⟨paths, hpaths, hu⟩, hnone⟩
          obtain he | he := he
          · cases he
          · cases he
            refine .cleared (Or.inr rfl)
              (fun q hm => Or.inl (hprevious.index q (hpaths q hm).1 (hpaths q hm).2.1)) hu (fun other he hnil hT => ?_)
            obtain ⟨hread, hgone⟩ := (hrel other he hT).removed ho
            exact hnone other (hprevious.read other he hread) hnil hnil hgone
      · exact Observed.ite (fun hb => absurd hb Bool.false_ne_true) (fun _ => Observed.pure (.left nofun))
    · rintro e w (ho | ho | ho | ho)
      · exact .left nofun
      · exact .cleared (Or.inr rfl) (fun _ hq => absurd hq List.not_mem_nil) (.refl [] _) (fun other he _ hT => absurd ho (hrel other he hT).stopped)
  · rintro e u ⟨rfl, -⟩
    exact .left nofun

end ChatDesktop.Session.AuthFiles
