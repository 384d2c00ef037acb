import ZigDecl.Proofs.Registry.History
import ZigDecl.Registry.Backend

/-! # Whether lookups find what is registered

A name is looked up among the aliases first and among the languages after that. Two things can get
between a name and its language: an alias that outlives the language it points at, and an alias of
another language that has the same name. Main statements: what leads to either, in terms of the
history of the registry, and that nothing else does. -/

namespace ZigDecl.Registry

variable {φ : Type}

/-! ## Where an alias comes from -/

/-- Whatever an alias points at was registered with that alias. -/
theorem exists_register_of_aliasTarget {changes : List (Change φ)} {name target : String}
    (h : (after changes).aliasTarget? name = some target) :
    ∃ before language factory aliases replace rest,
      changes = before ++ .register language factory aliases replace :: rest ∧
        Text.lower language = target ∧ name ∈ aliasKeys target aliases := by
  induction changes using List.reverseRecOn with
  | nil => cases h
  | append_singleton changes c ih =>
    -- What was there before the last change came from an earlier one.
    have earlier (hbefore : (after changes).aliasTarget? name = some target) :
        ∃ before language factory aliases replace rest,
          changes ++ [c] = before ++ .register language factory aliases replace :: rest ∧
            Text.lower language = target ∧ name ∈ aliasKeys target aliases := by
      obtain ⟨before, language, factory, aliases, replace, rest, hsplit, hcause⟩ := ih hbefore
      exact ⟨before, language, factory, aliases, replace, rest ++ [c], by simp [hsplit], hcause⟩
    rw [after_concat] at h
    generalize hr : (after changes).apply c = r at h
    have hstep := step_apply (after changes) c
    rw [hr] at hstep
    cases hstep with
    | unchanged => exact earlier h
    | @store language factory aliases replace hreplace =>
      rw [aliasTarget?_stored] at h
      split at h
      · next hname =>
        cases h
        exact ⟨changes, language, factory, aliases, replace, [], rfl, rfl, hname⟩
      · exact earlier h
    | @remove language old hold =>
      rw [aliasTarget?_removed] at h
      split at h
      · cases h
      · exact earlier h

theorem ne_of_mem_aliasKeys {name key : String} {aliases : List String}
    (h : name ∈ aliasKeys key aliases) : name ≠ key := by
  simpa using (List.mem_filter.mp h).2

/-- No alias points at the language of its own name. -/
theorem ne_of_aliasTarget {changes : List (Change φ)} {name target : String}
    (h : (after changes).aliasTarget? name = some target) : target ≠ name := by
  obtain ⟨_, _, _, _, _, _, _, _, hname⟩ := exists_register_of_aliasTarget h
  exact (ne_of_mem_aliasKeys hname).symm

/-! ## Aliases without a language -/

/-- A replacement of a registration left an alias out that pointed at its language. -/
def LeftOut (changes : List (Change φ)) (name target : String) : Prop :=
  ∃ before language factory aliases rest,
    changes = before ++ .register language factory aliases true :: rest ∧
      Text.lower language = target ∧ (after before).has target = true ∧
      (after before).aliasTarget? name = some target ∧ name ∉ aliasKeys target aliases

theorem LeftOut.concat {changes : List (Change φ)} {name target : String}
    (h : LeftOut changes name target) (c : Change φ) : LeftOut (changes ++ [c]) name target := by
  obtain ⟨before, language, factory, aliases, rest, hsplit, hcause⟩ := h
  exact ⟨before, language, factory, aliases, rest ++ [c], by simp [hsplit], hcause⟩

/-- The registration of the language that an alias points at lists the alias, unless a replacement
left it out. -/
theorem listed_or_leftOut {changes : List (Change φ)} {name target : String}
    (h : (after changes).aliasTarget? name = some target) :
    (∃ found, (after changes).find? target = some found ∧ name ∈ found.aliases) ∨
      LeftOut changes name target := by
  induction changes using List.reverseRecOn with
  | nil => cases h
  | append_singleton changes c ih =>
    have hstep := step_apply (after changes) c
    rw [after_concat] at h ⊢
    generalize hr : (after changes).apply c = r at h hstep ⊢
    cases hstep with
    | unchanged => exact (ih h).imp_right (·.concat c)
    | @store language factory aliases replace hreplace =>
      rw [aliasTarget?_stored] at h
      rw [find?_stored]
      split at h
      · next hname =>
        cases h
        exact .inl ⟨_, if_pos rfl, hname⟩
      · next hname =>
        rcases ih h with ⟨found, hfound, hlisted⟩ | hleft
        · by_cases hsame : target = Text.lower language
          · -- The registration that lists the alias is replaced by one that does not.
            have hhas : (after changes).has target = true := has_iff.mpr ⟨found, hfound⟩
            have hreplaced : replace = true := hreplace (hsame ▸ hhas)
            subst hreplaced
            exact .inr ⟨changes, language, factory, aliases, [], rfl, hsame.symm, hhas, h,
              hsame ▸ hname⟩
          · exact .inl ⟨found, (if_neg hsame).trans hfound, hlisted⟩
        · exact .inr (hleft.concat _)
    | @remove language old hold =>
      rw [aliasTarget?_removed] at h
      rw [find?_removed]
      split at h
      · cases h
      · next hname =>
        rcases ih h with ⟨found, hfound, hlisted⟩ | hleft
        · have hother : target ≠ old.language := by
            intro hsame
            rw [hsame, language_of_find? hold, hold] at hfound
            cases hfound
            exact hname hlisted
          exact .inl ⟨found, (if_neg hother).trans hfound, hlisted⟩
        · exact .inr (hleft.concat _)

/-- A language that is registered no longer was unregistered. -/
theorem exists_unregister {before rest : List (Change φ)} {target : String}
    (hbefore : (after before).has target = true)
    (hafter : (after (before ++ rest)).has target = false) :
    ∃ language, .unregister language ∈ rest ∧ Text.lower language = target := by
  induction rest using List.reverseRecOn with
  | nil => simp [hbefore] at hafter
  | append_singleton rest c ih =>
    have earlier (hgone : (after (before ++ rest)).has target = false) :
        ∃ language, .unregister language ∈ rest ++ [c] ∧ Text.lower language = target := by
      obtain ⟨language, hmem, hname⟩ := ih hgone
      exact ⟨language, List.mem_append_left _ hmem, hname⟩
    cases hthere : (after (before ++ rest)).has target with
    | false => exact earlier hthere
    | true =>
      have hstep := step_apply (after (before ++ rest)) c
      rw [← List.append_assoc, after_concat] at hafter
      generalize hr : (after (before ++ rest)).apply c = r at hafter hstep
      obtain ⟨found, hfound⟩ := has_iff.mp hthere
      cases hstep with
      | unchanged => rw [hthere] at hafter; cases hafter
      | store =>
        rw [has, find?_stored, hfound] at hafter
        split at hafter <;> cases hafter
      | @remove language old hold =>
        rw [has, find?_removed, hfound] at hafter
        split at hafter
        · next hname =>
          exact ⟨language, by simp, (language_of_find? hold).symm.trans hname.symm⟩
        · cases hafter

/-- An alias points at a language that is not registered: a replacement of its registration left
the alias out, so that unregistering the language afterwards left it behind. -/
structure Orphaned (changes : List (Change φ)) (name target : String) : Prop where
  points : (after changes).aliasTarget? name = some target
  gone : (after changes).has target = false
  /-- How it came about. -/
  cause : ∃ before language factory aliases rest,
    changes = before ++ .register language factory aliases true :: rest ∧
      Text.lower language = target ∧ (after before).has target = true ∧
      (after before).aliasTarget? name = some target ∧ name ∉ aliasKeys target aliases ∧
      ∃ again, .unregister again ∈ rest ∧ Text.lower again = target

theorem orphaned_of_not_has {changes : List (Change φ)} {name target : String}
    (h : (after changes).aliasTarget? name = some target)
    (hgone : (after changes).has target = false) : Orphaned changes name target := by
  refine ⟨h, hgone, ?_⟩
  rcases listed_or_leftOut h with ⟨found, hfound, _⟩ | hleft
  · have hthere : (after changes).has target = true := has_iff.mpr ⟨found, hfound⟩
    rw [hgone] at hthere
    cases hthere
  · obtain ⟨before, language, factory, aliases, rest, hsplit, hlanguage, hhas, hpoints, hname⟩ :=
      hleft
    have hstored : (after (before ++ [.register language factory aliases true])).has target =
        true := by
      rw [after_concat, apply]
      rcases (after before).register_cases language factory aliases true with
        ⟨_, hfalse, _⟩ | ⟨hfalse, _⟩ | ⟨_, hstored⟩
      · cases hfalse
      · cases hfalse
      · rw [hstored]
        exact has_iff.mpr ⟨_, (find?_stored _ _ _).trans (if_pos hlanguage.symm)⟩
    have hrest : changes = (before ++ [.register language factory aliases true]) ++ rest := by
      simp [hsplit]
    rw [hrest] at hgone
    exact ⟨before, language, factory, aliases, rest, hsplit, hlanguage, hhas, hpoints, hname,
      exists_unregister hstored hgone⟩

theorem resolve_eq_ok_iff {r : Registry φ} {name language : String} :
    r.resolve name = .ok language ↔
      (r.aliasTarget? (Text.lower name)).getD (Text.lower name) = language ∧
        r.has language = true := by
  simp only [resolve]
  split
  · next hhas =>
    constructor
    · intro h; cases h; exact ⟨rfl, hhas⟩
    · intro ⟨hname, _⟩; rw [hname]
  · next hnot =>
    constructor
    · intro h; cases h
    · intro ⟨hname, hhas⟩; exact absurd (hname ▸ hhas) hnot

/-- A name counts as supported just if it is resolved, as long as it is no alias of a language that
is not registered. -/
theorem isSupported_iff_resolve_iff (r : Registry φ) (name : String) :
    (r.isSupported name = true ↔ ∃ language, r.resolve name = .ok language) ↔
      ∀ target, r.aliasTarget? (Text.lower name) = some target → r.has target = true := by
  simp only [resolve_eq_ok_iff, isSupported, exists_eq_left']
  cases hpoints : r.aliasTarget? (Text.lower name) with
  | none => simp
  | some target => simp

/-- Whatever happened to a registry, a name counts as supported just if it is resolved, unless it is
an alias that a replacement left out before its language was unregistered. -/
theorem lookups_agree_iff (changes : List (Change φ)) (name : String) :
    ((after changes).isSupported name = true ↔
        ∃ language, (after changes).resolve name = .ok language) ↔
      ∀ target, ¬ Orphaned changes (Text.lower name) target := by
  rw [isSupported_iff_resolve_iff]
  constructor
  · intro h target horphan
    have hhas := h target horphan.points
    rw [horphan.gone] at hhas
    cases hhas
  · intro h target hpoints
    by_contra hgone
    exact h target (orphaned_of_not_has hpoints (by simpa using hgone))

/-- The alias that a replacement left out is still there when the language is gone. -/
theorem orphaned_leftOut (factory : φ) :
    let changes := [.register "zig" factory ["z"] false, .register "zig" factory [] true,
      .unregister "zig"]
    Orphaned changes "z" "zig" ∧
      ¬ ((after changes).isSupported "z" = true ↔
        ∃ language, (after changes).resolve "z" = .ok language) := by
  intro changes
  have horphan : Orphaned changes "z" "zig" := orphaned_of_not_has (by rfl) (by rfl)
  refine ⟨horphan, fun hagree => ?_⟩
  have hlower : Text.lower "z" = "z" := by rfl
  exact (lookups_agree_iff changes "z").mp hagree "zig" (hlower ▸ horphan)

/-! ## A language with the name of an alias -/

theorem lookup_eq_ok {r : Registry φ} {name key : String} {found : Registration φ}
    (hkey : r.resolve name = .ok key) (hfound : r.find? key = some found) :
    r.lookup name = .ok found := by
  simp only [lookup, hkey, ok_bind, hfound]
  rfl

/-- An alias of another language has the name: it was registered with that language. -/
structure Shadowed (changes : List (Change φ)) (name target : String) : Prop where
  points : (after changes).aliasTarget? name = some target
  other : target ≠ name
  /-- How it came about. -/
  cause : ∃ before language factory aliases replace rest,
    changes = before ++ .register language factory aliases replace :: rest ∧
      Text.lower language = target ∧ name ∈ aliasKeys target aliases

theorem shadowed_iff {changes : List (Change φ)} {name target : String} :
    Shadowed changes name target ↔ (after changes).aliasTarget? name = some target :=
  ⟨Shadowed.points, fun h => ⟨h, ne_of_aliasTarget h, exists_register_of_aliasTarget h⟩⟩

/-- What is registered is found under its own name, unless another language was registered with that
name as an alias; then the name stands for the other language, which need not be registered. -/
theorem resolve_registered (changes : List (Change Factory)) {language : String} {factory : Factory}
    {aliases : List String} {replace : Bool} {r : Backends}
    (hr : (after changes).register language factory aliases replace = .ok r)
    (hstored : (after changes).has (Text.lower language) = true → replace = true) :
    let key := Text.lower language
    (r.resolve language = .ok key ↔ ∀ target, ¬ Shadowed changes key target) ∧
      ((∀ target, ¬ Shadowed changes key target) → ∀ d source,
        Backends.create r d language source =
          ((Backends.resolveConfig d key source).bind factory).mapError
            (Backends.creationFailure language)) ∧
      ∀ target, Shadowed changes key target →
        r.resolve language = if r.has target then .ok target
          else .error (.unknownLanguage language r.languages) := by
  intro key
  have hrr : r = (after changes).stored ⟨key, factory, aliasKeys key aliases⟩ := by
    rcases (after changes).register_cases language factory aliases replace with
      ⟨hhas, hkept, _⟩ | ⟨_, e, he⟩ | ⟨_, hok⟩
    · rw [hstored hhas] at hkept; cases hkept
    · rw [hr] at he; cases he
    · exact Except.ok.inj (hr.symm.trans hok)
  have hpoints : r.aliasTarget? key = (after changes).aliasTarget? key := by
    rw [hrr, aliasTarget?_stored, if_neg fun hmem => ne_of_mem_aliasKeys hmem rfl]
  have hfound : r.find? key = some ⟨key, factory, aliasKeys key aliases⟩ := by
    rw [hrr, find?_stored, if_pos rfl]
  have hown (hfree : ∀ target, ¬ Shadowed changes key target) : r.resolve language = .ok key := by
    refine resolve_eq_ok_iff.mpr ⟨?_, has_iff.mpr ⟨_, hfound⟩⟩
    cases htarget : r.aliasTarget? key with
    | none => rfl
    | some target => exact absurd (shadowed_iff.mpr (hpoints ▸ htarget)) (hfree target)
  have hother (target : String) (h : Shadowed changes key target) : r.resolve language =
      if r.has target then .ok target else .error (.unknownLanguage language r.languages) := by
    simp only [resolve, show r.aliasTarget? (Text.lower language) = some target from
      hpoints.trans h.points, Option.getD_some]
  refine ⟨⟨fun h target hshadow => ?_, hown⟩, fun hfree d source => ?_, hother⟩
  · rw [hother target hshadow] at h
    split at h
    · cases h; exact hshadow.other rfl
    · cases h
  · rw [Backends.create, lookup_eq_ok (hown hfree) hfound]
    rfl

/-- A language registered under the name of an alias of another one is not found. -/
theorem resolve_registered_alias : ∃ r : Backends,
    (after [.register "a" Factory.zig ["b"] false]).register "b" Factory.zig [] false = .ok r ∧
      r.resolve "b" = .ok "a" := by
  let changes : List (Change Factory) := [.register "a" Factory.zig ["b"] false]
  have hfree : (after changes).has (Text.lower "b") = false := by rfl
  have hstored : (after changes).has (Text.lower "b") = true → false = true :=
    fun h => hfree.symm.trans h
  have hr : (after changes).register "b" Factory.zig [] false =
      .ok ((after changes).stored ⟨"b", Factory.zig, []⟩) := rfl
  obtain ⟨-, -, hother⟩ := resolve_registered changes hr hstored
  have hshadow : Shadowed changes (Text.lower "b") "a" := shadowed_iff.mpr (by rfl)
  exact ⟨_, rfl, (hother "a" hshadow).trans (by rfl)⟩

end ZigDecl.Registry
