import ZigDecl.Proofs.Registry.History
import ZigDecl.Proofs.Steps

/-! # Who owns an alias

A call looks at the aliases in one loop and writes them in another, so it could stop half way, and
what it writes could belong to another language. Main statement: as long as nothing is replaced,
every alias belongs to a registered language that lists it, a call that is refused changes nothing,
and to unregister a new language takes back what registering it did. -/

namespace ZigDecl.Registry

variable {φ : Type} {r : Registry φ}

/-! ## Calls step by step -/

/-- A call works on a registry and may be refused after some of its steps. -/
abbrev Call (φ α : Type) := ExceptT RegistryError (StateM (Registry φ)) α

namespace Call

def refuseConflict (key name : String) : Call φ Unit := do
  if let some e := (← get).conflict? key name then throw e

/-- Write a registration, and then one alias after the other. -/
def store (new : Registration φ) : Call φ Unit := do
  modify fun r => { r with registrations := setRegistration new r.registrations }
  forM new.aliases fun name =>
    modify fun r => { r with aliases := setAlias new.language r.aliases name }

/-- Delete a registration, and then one alias after the other. -/
def delete (old : Registration φ) : Call φ Unit := do
  modify fun r => { r with
    registrations := r.registrations.filter (·.language != old.language) }
  forM old.aliases fun name =>
    modify fun r => { r with aliases := r.aliases.filter (·.1 != name) }

/-- Registering in the order of its steps. What cannot be called is no factory. -/
def register (language : String) (factory : Option φ) (aliases : List String) (replace : Bool) :
    Call φ Unit := do
  let some factory := factory | throw .notAFactory
  let key := Text.lower language
  if (← get).has key && !replace then return
  let keys := aliasKeys key aliases
  if !replace then forM keys (refuseConflict key)
  store ⟨key, factory, keys⟩

/-- Unregistering in the order of its steps. -/
def unregister (language : String) : Call φ Unit := do
  if let some old := (← get).find? (Text.lower language) then delete old

theorem get_apply (r : Registry φ) : (get : Call φ (Registry φ)) r = (.ok r, r) := rfl

theorem refuseConflict_apply (key name : String) (r : Registry φ) :
    refuseConflict key name r = match r.conflict? key name with
      | some e => (.error e, r)
      | none => (.ok (), r) := by
  rw [refuseConflict, exceptT_bind_apply, get_apply]
  cases hconflict : r.conflict? key name <;> simp only [hconflict] <;> rfl

/-- The loop that looks for conflicts writes nothing, and stops at the first one. -/
theorem forM_refuseConflict_apply (key : String) (names : List String) (r : Registry φ) :
    (forM names (refuseConflict key) : Call φ Unit) r =
      match names.findSome? (r.conflict? key) with
      | some e => (.error e, r)
      | none => (.ok (), r) := by
  induction names with
  | nil => rfl
  | cons name rest ih =>
    rw [List.forM_cons, List.findSome?_cons, exceptT_bind_apply, refuseConflict_apply]
    cases hconflict : r.conflict? key name with
    | some e => rfl
    | none => exact ih

/-- A loop over aliases cannot be refused. -/
theorem forM_modify_apply
    (change : List (String × String) → String → List (String × String)) (names : List String)
    (r : Registry φ) :
    (forM names fun name => modify fun r => { r with aliases := change r.aliases name } :
      Call φ Unit) r = (.ok (), { r with aliases := names.foldl change r.aliases }) := by
  induction names generalizing r with
  | nil => rfl
  | cons name rest ih =>
    rw [List.forM_cons, List.foldl_cons]
    exact ih { r with aliases := change r.aliases name }

theorem store_apply (new : Registration φ) (r : Registry φ) :
    store new r = (.ok (), r.stored new) :=
  forM_modify_apply (setAlias new.language) new.aliases
    { r with registrations := setRegistration new r.registrations }

theorem delete_apply (old : Registration φ) (r : Registry φ) :
    delete old r = (.ok (), r.removed old) := by
  have hloop := forM_modify_apply (fun aliases name => aliases.filter (·.1 != name)) old.aliases
    { r with registrations := r.registrations.filter (·.language != old.language) }
  refine hloop.trans ?_
  have hfilter : ∀ (names : List String) (aliases : List (String × String)),
      names.foldl (fun aliases name => aliases.filter (·.1 != name)) aliases =
        aliases.filter fun e => !names.contains e.1 := by
    intro names
    induction names with
    | nil => simp
    | cons name rest ih =>
      intro aliases
      rw [List.foldl_cons, ih, List.filter_filter]
      refine List.filter_congr fun entry _ => ?_
      by_cases hname : entry.1 = name <;> simp [hname]
  rw [hfilter, removed]

/-- A call to register does all of what registering is, or is refused and has changed nothing. -/
theorem register_apply (language : String) (factory : φ) (aliases : List String) (replace : Bool)
    (r : Registry φ) :
    register language (some factory) aliases replace r =
      match r.register language factory aliases replace with
      | .ok changed => (.ok (), changed)
      | .error e => (.error e, r) := by
  simp only [register, exceptT_bind_apply, get_apply, Registry.register]
  by_cases hkept : (r.has (Text.lower language) && !replace) = true
  · simp only [if_pos hkept]
    rfl
  · simp only [if_neg hkept]
    cases replace with
    | true => exact store_apply ..
    | false =>
      simp only [Bool.not_false, if_true, exceptT_bind_apply, forM_refuseConflict_apply]
      cases hconflict : (aliasKeys (Text.lower language) aliases).findSome?
          (r.conflict? (Text.lower language)) with
      | some e => rfl
      | none => exact store_apply ..

theorem unregister_apply (language : String) (r : Registry φ) :
    unregister language r = (.ok (), r.unregister language) := by
  simp only [unregister, exceptT_bind_apply, get_apply, Registry.unregister]
  cases hold : r.find? (Text.lower language) with
  | none => rfl
  | some old =>
    rw [← language_of_find? hold]
    exact delete_apply old r

end Call

/-! ## Owned aliases -/

/-- Every alias belongs to a registered language, and the aliases that point at a language are those
of its registration. -/
structure Owned (r : Registry φ) : Prop where
  listed : ∀ key found, r.find? key = some found → ∀ name,
    r.aliasTarget? name = some key ↔ name ∈ found.aliases
  registered : ∀ name key, r.aliasTarget? name = some key → r.has key = true

theorem owned_empty : Owned (empty : Registry φ) := ⟨nofun, nofun⟩

theorem conflict?_eq_none_iff {key name : String} :
    r.conflict? key name = none ↔
      r.has name = false ∧ ∀ target, r.aliasTarget? name = some target → target = key := by
  rw [conflict?]
  cases r.has name with
  | true => simp
  | false =>
    cases r.aliasTarget? name with
    | none => simp
    | some target => simp

/-- A registration that may be stored without a replacement: its language is new, and none of its
aliases is in use. -/
structure Fresh (r : Registry φ) (new : Registration φ) : Prop where
  language : r.find? new.language = none
  aliases : ∀ name ∈ new.aliases, r.aliasTarget? name = none

/-- What is registered without a replacement is fresh. -/
theorem Owned.fresh (h : Owned r) {language : String} {factory : φ} {aliases : List String}
    {changed : Registry φ} (hnew : r.has (Text.lower language) = false)
    (hr : r.register language factory aliases false = .ok changed) :
    Fresh r ⟨Text.lower language, factory, aliasKeys (Text.lower language) aliases⟩ ∧
      changed = r.stored ⟨Text.lower language, factory,
        aliasKeys (Text.lower language) aliases⟩ := by
  simp only [register, hnew, Bool.false_and, Bool.false_eq_true, if_false] at hr
  split at hr
  · cases hr
  · next hconflict =>
    cases hr
    refine ⟨⟨by simpa [has] using hnew, fun name hname => ?_⟩, rfl⟩
    obtain ⟨-, hsame⟩ :=
      conflict?_eq_none_iff.mp (List.findSome?_eq_none_iff.mp hconflict name hname)
    cases htarget : r.aliasTarget? name with
    | none => rfl
    | some target =>
      -- The language would have its own alias already, but it is not registered.
      have hthere := h.registered name target htarget
      rw [hsame target htarget, hnew] at hthere
      cases hthere

theorem Owned.stored (h : Owned r) {new : Registration φ} (hnew : Fresh r new) :
    Owned (r.stored new) := by
  have hother : ∀ {name key : String}, r.aliasTarget? name = some key → key ≠ new.language := by
    intro name key hpoints heq
    obtain ⟨found, hfound⟩ := has_iff.mp (h.registered name key hpoints)
    rw [heq, hnew.language] at hfound
    cases hfound
  refine ⟨fun key found hfound name => ?_, fun name key hpoints => ?_⟩
  · rw [find?_stored] at hfound
    rw [aliasTarget?_stored]
    split at hfound
    · next hkey =>
      cases hfound
      by_cases hname : name ∈ new.aliases
      · simp [hname, hkey]
      · simp only [hname, iff_false]
        exact fun hpoints => hother hpoints hkey
    · next hkey =>
      by_cases hname : name ∈ new.aliases
      · have hfree := hnew.aliases name hname
        rw [if_pos hname, ← h.listed key found hfound, hfree]
        simp [Ne.symm hkey]
      · rw [if_neg hname]
        exact h.listed key found hfound name
  · rw [aliasTarget?_stored] at hpoints
    rw [has, find?_stored]
    split at hpoints
    · cases hpoints
      simp
    · rw [if_neg (hother hpoints)]
      exact h.registered name key hpoints

theorem Owned.removed (h : Owned r) {old : Registration φ}
    (hold : r.find? old.language = some old) : Owned (r.removed old) := by
  have howned := h.listed old.language old hold
  refine ⟨fun key found hfound name => ?_, fun name key hpoints => ?_⟩
  · rw [find?_removed] at hfound
    rw [aliasTarget?_removed]
    split at hfound
    · cases hfound
    · next hkey =>
      rw [← h.listed key found hfound]
      by_cases hname : name ∈ old.aliases
      · rw [if_pos hname, (howned name).mpr hname]
        simp [Ne.symm hkey]
      · rw [if_neg hname]
  · rw [aliasTarget?_removed] at hpoints
    rw [has, find?_removed]
    split at hpoints
    · cases hpoints
    · next hname =>
      have hkey : key ≠ old.language := fun heq => hname ((howned name).mp (heq ▸ hpoints))
      rw [if_neg hkey]
      exact h.registered name key hpoints

/-! ## Histories without replacements -/

/-- A change that may replace a registration. -/
def Change.replaces : Change φ → Bool
  | .register _ _ _ replace => replace
  | .unregister _ => false

theorem Owned.apply (h : Owned r) {c : Change φ} (hc : c.replaces = false) : Owned (r.apply c) := by
  cases c with
  | register language factory aliases replace =>
    obtain rfl : replace = false := hc
    rw [Registry.apply]
    rcases r.register_cases language factory aliases false with
      ⟨_, _, hkept⟩ | ⟨_, e, hrefused⟩ | ⟨hnew, hstored⟩
    · rw [hkept]
      exact h
    · rw [hrefused]
      exact h
    · have hnew : r.has (Text.lower language) = false := by
        simpa using hnew
      rw [hstored]
      exact h.stored (h.fresh hnew hstored).1
  | unregister language =>
    rw [Registry.apply, unregister]
    cases hold : r.find? (Text.lower language) with
    | none => exact h
    | some old =>
      have hlanguage := language_of_find? hold
      have hremoved := h.removed (hlanguage.symm ▸ hold)
      rw [Registry.removed, hlanguage] at hremoved
      exact hremoved

/-- As long as nothing is replaced, every alias is owned. -/
theorem owned_after {changes : List (Change φ)} (h : ∀ c ∈ changes, c.replaces = false) :
    Owned (after changes) := by
  induction changes using List.reverseRecOn with
  | nil => exact owned_empty
  | append_singleton changes c ih =>
    rw [after_concat]
    exact (ih fun d hd => h d (List.mem_append_left _ hd)).apply (h c (by simp))

/-! ## Taking back a registration -/

/-- Writing an alias changes no entry of another one. -/
theorem filter_setAlias {key name : String} {kept : String → Bool} (hname : kept name = false)
    (aliases : List (String × String)) :
    (setAlias key aliases name).filter (fun e => kept e.1) = aliases.filter fun e => kept e.1 := by
  rw [setAlias]
  split
  · rw [List.filter_map]
    have hsame : ∀ entry ∈ aliases.filter fun e => kept e.1,
        (entry.1, if entry.1 == name then key else entry.2) = entry := by
      intro entry hentry
      have hne : entry.1 ≠ name := by
        rintro rfl
        rw [(List.mem_filter.mp hentry).2] at hname
        cases hname
      simp [hne]
    exact (List.map_congr_left hsame).trans (List.map_id' _)
  · simp [List.filter_append, hname]

theorem filter_foldl_setAlias {key : String} (kept : String → Bool) {names : List String}
    (h : ∀ name ∈ names, kept name = false) (aliases : List (String × String)) :
    (names.foldl (setAlias key) aliases).filter (fun e => kept e.1) =
      aliases.filter fun e => kept e.1 := by
  induction names generalizing aliases with
  | nil => rfl
  | cons name rest ih =>
    rw [List.foldl_cons, ih fun n hn => h n (List.mem_cons_of_mem name hn),
      filter_setAlias (h name List.mem_cons_self)]

/-- What was stored freshly is taken back by its removal. -/
theorem Fresh.removed_stored {new : Registration φ} (h : Fresh r new) :
    (r.stored new).removed new = r := by
  have hlanguages : (setRegistration new r.registrations).filter (·.language != new.language) =
      r.registrations := by
    have hnone := List.find?_eq_none.mp h.language
    rw [setRegistration, if_neg (by simpa using hnone), List.filter_append]
    simpa [List.filter_eq_self] using hnone
  have haliases : (new.aliases.foldl (setAlias new.language) r.aliases).filter
      (fun e => !new.aliases.contains e.1) = r.aliases := by
    refine (filter_foldl_setAlias (fun name => !new.aliases.contains name) (by simp) _).trans ?_
    rw [List.filter_eq_self]
    intro entry hentry
    -- An entry under one of the aliases would be found.
    by_contra hlisted
    have hfree := h.aliases entry.1 (by simpa using hlisted)
    rw [aliasTarget?, Option.map_eq_none_iff, List.find?_eq_none] at hfree
    exact hfree entry hentry (by simp)
  rw [removed, stored, hlanguages, haliases]

theorem Fresh.unregister_stored {new : Registration φ} (h : Fresh r new) {language : String}
    (hlanguage : Text.lower language = new.language) : (r.stored new).unregister language = r := by
  have hfound : (r.stored new).find? (Text.lower language) = some new := by
    rw [find?_stored, if_pos hlanguage]
  have hremoved := h.removed_stored
  rw [removed, ← hlanguage] at hremoved
  rw [unregister, hfound]
  exact hremoved

/-- As long as nothing is replaced, every alias belongs to a registered language that lists it, a
call to register that is refused leaves the registry as it is, and a new language that is registered
and unregistered again leaves it as it was. -/
theorem clean_after {changes : List (Change φ)} (h : ∀ c ∈ changes, c.replaces = false) :
    Owned (after changes) ∧
    (∀ language factory aliases replace e r,
      (Call.register language factory aliases replace).run (after changes) = (.error e, r) →
        r = after changes) ∧
    ∀ language factory aliases r again, (after changes).has (Text.lower language) = false →
      (Call.register language (some factory) aliases false).run (after changes) = (.ok (), r) →
      Text.lower again = Text.lower language →
        (Call.unregister again).run r = (.ok (), after changes) := by
  have howned := owned_after h
  refine ⟨howned, ?_, ?_⟩
  · intro language factory aliases replace e r hrun
    cases factory with
    | none => exact (Prod.mk.inj hrun).2.symm
    | some factory =>
      have hcall := (Call.register_apply ..).symm.trans hrun
      split at hcall
      · cases hcall
      · exact (Prod.mk.inj hcall).2.symm
  · intro language factory aliases r again hnew hrun hagain
    have hcall := (Call.register_apply ..).symm.trans hrun
    split at hcall
    · next changed hr =>
      obtain ⟨hfresh, rfl⟩ := howned.fresh hnew hr
      obtain rfl := (Prod.mk.inj hcall).2
      exact (Call.unregister_apply again _).trans
        (congrArg (Except.ok (), ·) (hfresh.unregister_stored hagain))
    · cases hcall

/-- A history in which aliases repeat, are the language itself in other letters, belong to another
language already, or have the name of a language that is registered later. -/
def tangledHistory : List (Change Unit) := [
  .register "Zig" () ["ZIG", "zl", "ZL"] false,
  .register "Rust" () ["rs", "zl"] false,
  .register "zl" () [] false,
  .unregister "Rust"]

theorem after_tangledHistory : after tangledHistory =
    ⟨[⟨"zig", (), ["zl", "zl"]⟩, ⟨"zl", (), []⟩], [("zl", "zig")]⟩ := by
  have hzig : Text.lower "Zig" = "zig" := by rfl
  have hrust : Text.lower "Rust" = "rust" := by rfl
  have hzl : Text.lower "zl" = "zl" := by rfl
  have hzigKeys : aliasKeys "zig" ["ZIG", "zl", "ZL"] = ["zl", "zl"] := by rfl
  have hrustKeys : aliasKeys "rust" ["rs", "zl"] = ["rs", "zl"] := by rfl
  simp only [after, tangledHistory, List.foldl, apply, register, unregister, hzig, hrust, hzl,
    hzigKeys, hrustKeys]
  rfl

theorem clean_after_tangled :
    (∀ c ∈ tangledHistory, c.replaces = false) ∧ Owned (after tangledHistory) ∧
      ∃ r, (Call.register "Go" (some ()) ["golang", "GO", "Golang"] false).run
          (after tangledHistory) = (.ok (), r) ∧
        r.aliases = [("zl", "zig"), ("golang", "go")] ∧
        (Call.unregister "GO").run r = (.ok (), after tangledHistory) := by
  have hplain : ∀ c ∈ tangledHistory, c.replaces = false := by
    simp [tangledHistory, Change.replaces]
  obtain ⟨howned, -, hback⟩ := clean_after hplain
  have hlower : Text.lower "Go" = "go" := by rfl
  have hnew : (after tangledHistory).has (Text.lower "Go") = false := by
    rw [after_tangledHistory, hlower]
    rfl
  have hr : (after tangledHistory).register "Go" () ["golang", "GO", "Golang"] false =
      .ok ⟨[⟨"zig", (), ["zl", "zl"]⟩, ⟨"zl", (), []⟩, ⟨"go", (), ["golang", "golang"]⟩],
        [("zl", "zig"), ("golang", "go")]⟩ := by
    have hkeys : aliasKeys "go" ["golang", "GO", "Golang"] = ["golang", "golang"] := by rfl
    simp only [register, hlower, hkeys, after_tangledHistory]
    rfl
  have hrun := Call.register_apply "Go" () ["golang", "GO", "Golang"] false (after tangledHistory)
  rw [hr] at hrun
  have hlower' : Text.lower "GO" = "go" := by rfl
  exact ⟨hplain, howned, _, hrun, rfl, hback "Go" () _ _ "GO" hnew hrun (hlower'.trans hlower.symm)⟩

end ZigDecl.Registry
