import Mathlib.Data.List.Induction
import ZigDecl.Proofs.Config.Precedence
import ZigDecl.Proofs.File.Written
import ZigDecl.Proofs.Steps
import ZigDecl.Proofs.Value.Json

/-! # Configurations that are saved and loaded again

Saving a configuration puts its fields and its custom settings side by side in one object, and
loading that object tells them apart by their keys. Main statement: what is loaded is what was saved
just if no custom setting has the name of a field. -/

namespace ZigDecl

open TextLike (lit)

variable {τ : Type} [DecidableEq τ]

/-! ## Equality of values -/

/-- A notion of equality for values: every value equals itself, and an object only equals objects
that have equal values under the same keys, whatever the order. -/
structure Value.IsEquality (same : Value τ → Value τ → Prop) : Prop where
  refl : ∀ v, same v v
  members : ∀ {ms : List (τ × Value τ)} {v : Value τ}, same (.obj ms) v →
    ∃ ns, v = .obj ns ∧ ∀ key, Option.Rel same (Value.last? key ms) (Value.last? key ns)

theorem Value.isEquality_eq : Value.IsEquality fun v w : Value τ => v = w where
  refl _ := rfl
  members {ms} _ h := ⟨ms, h.symm, fun key => by cases last? key ms <;> constructor; rfl⟩

/-- What equals an object is an object with an equal value for every one of its members. -/
theorem Value.IsEquality.exists_members {same : Value τ → Value τ → Prop}
    (hsame : Value.IsEquality same) {ms : List (τ × Value τ)} {v : Value τ}
    (h : same (.obj ms) v) : ∃ ns, v = .obj ns ∧ ∀ {key : τ} {w : Value τ},
      Value.last? key ms = some w → ∃ w', Value.last? key ns = some w' ∧ same w w' := by
  obtain ⟨ns, rfl, hrel⟩ := hsame.members h
  refine ⟨ns, rfl, fun {key w} hw => ?_⟩
  have hkey := hrel key
  rw [hw] at hkey
  cases hw' : Value.last? key ns with
  | none => rw [hw'] at hkey; cases hkey
  | some w' => rw [hw'] at hkey; cases hkey with | some h => exact ⟨w', rfl, h⟩

/-- No object equals one of its own members: that member would have an equal one in turn, and so on
without an end. -/
theorem Value.IsEquality.not_same_member {same : Value τ → Value τ → Prop}
    (hsame : Value.IsEquality same) {key : τ} {ms : List (τ × Value τ)} {v : Value τ}
    (hv : Value.last? key ms = some v) : ¬ same (.obj ms) v := by
  intro h
  obtain ⟨ns, rfl, hmembers⟩ := hsame.exists_members h
  obtain ⟨w, hw, hnested⟩ := hmembers hv
  exact hsame.not_same_member hw hnested
termination_by sizeOf ms
decreasing_by
  have hmem := List.sizeOf_lt_of_mem (Value.mem_of_last? hv)
  simp only [Prod.mk.sizeOf_spec, Value.obj.sizeOf_spec] at hmem
  omega

namespace Config

open Value (last?)

variable [TextLike τ]

/-- The fields of two configurations are the same one by one. -/
def SameFields (same : Value τ → Value τ → Prop) (c c' : Config τ) : Prop :=
  List.Forall₂ (fun f f' => f.1 = f'.1 ∧ same f.2 f'.2) c.fields c'.fields

/-- The text that a configuration is saved as, if there is one, says just what was saved. -/
def SavesFaithfully (c : Config τ) : Prop :=
  ∀ settings text, c.flatten = .ok settings → c.savedText? = .ok (some text) →
    Value.ofJson text = .ok (Value.obj settings).raw

/-! ## What is saved -/

variable {config : Config τ} {members : List (τ × Value τ)}

/-- The custom settings of a configuration over its other fields. -/
def flat (config : Config τ) (members : List (τ × Value τ)) : List (τ × Value τ) :=
  Value.putAll members (config.fields.take 5)

theorem flatten_eq (hcustom : config.custom = .obj members) :
    config.flatten = .ok (flat config members) := by
  rw [flatten, hcustom]
  rfl

theorem nodup_flat (config : Config τ) (members : List (τ × Value τ)) :
    ((flat config members).map (·.1)).Nodup := by
  refine Value.nodup_putAll ?_ members
  rw [keys_generic]
  exact nodup_fieldNames.sublist (List.take_sublist ..)

/-- Among the settings that are saved, the custom ones come first. -/
theorem lookup_flat (key : τ) : Value.lookup key (flat config members) =
    (last? key members).or (Value.lookup key (config.fields.take 5)) :=
  Value.lookup_putAll key members _

/-- The generic fields of a valid configuration are values that a text can hold. -/
theorem isExact_of_isValid (h : config.IsValid) :
    ∀ f ∈ config.fields.take 5, f.2.IsExact := by
  obtain ⟨hending, hcomments, hpublic, hsplit, hadd⟩ := h
  have hflag : ∀ {v : Value τ}, isFlag v = true → v.IsExact := by
    rintro (_ | b | _ | _ | _ | _ | _) hv <;> cases hv
    exact .bool b
  have hleading : config.leadingComments.IsExact := by
    cases hv : config.leadingComments with
    | null => exact .null
    | arr items =>
      rw [hv, areComments, List.all_eq_true] at hcomments
      refine .arr fun v hmem => ?_
      cases v with
      | str s => exact .str s
      | _ => cases hcomments _ hmem
    | _ => rw [hv] at hcomments; cases hcomments
  have hline : config.lineEnding.IsExact := by
    cases hv : config.lineEnding with
    | str s => exact .str s
    | _ => rw [hv] at hending; cases hending
  simp only [fields, fieldNames, List.map_cons, List.zip_cons_cons, List.take_succ_cons,
    List.take_zero, List.forall_mem_cons]
  exact ⟨hflag hpublic, hflag hsplit, hleading, hflag hadd, hline, by simp⟩

/-- What is saved is exact if the custom settings are. -/
theorem isExact_flat (hvalid : config.IsValid) (hexact : ∀ m ∈ members, m.2.IsExact) :
    (Value.obj (flat config members)).IsExact := by
  refine .obj (nodup_flat config members) fun m hm => ?_
  have hlookup := Value.lookup_of_mem (nodup_flat config members) hm
  rw [lookup_flat] at hlookup
  cases hlast : last? m.1 members with
  | some v =>
    rw [hlast] at hlookup
    obtain rfl : v = m.2 := Option.some.inj hlookup
    exact hexact _ (Value.mem_of_last? hlast)
  | none =>
    rw [hlast] at hlookup
    exact isExact_of_isValid hvalid _ (Value.mem_of_lookup hlookup)

theorem savedText?_eq {settings : List (τ × Value τ)} (h : config.flatten = .ok settings) :
    config.savedText? = .ok ((Value.obj settings).whole?.map (Value.toJson (some 2))) := by
  rw [savedText?, h]
  rfl

/-- Custom settings that a text can hold are saved faithfully. -/
theorem savesFaithfully (hvalid : config.IsValid) (hcustom : config.custom = .obj members)
    (hexact : ∀ m ∈ members, m.2.IsExact) : config.SavesFaithfully := by
  intro settings text hflatten htext
  obtain rfl : flat config members = settings :=
    Except.ok.inj ((flatten_eq hcustom).symm.trans hflatten)
  rw [savedText?_eq hflatten, Except.ok.injEq, Option.map_eq_some_iff] at htext
  obtain ⟨w, hw, rfl⟩ := htext
  rw [Value.whole?_eq_some_iff] at hw
  have hflat := Value.isExact_raw_iff.mpr (isExact_flat hvalid hexact)
  rw [← hw, Value.isExact_raw_iff] at hflat
  rw [Value.ofJson_toJson hflat, hw]

/-! ## What is loaded -/

/-- Custom settings that are an object in the end were never displaced. -/
theorem tracks_of_applyLayer {layer settings : List (τ × Value τ)}
    (h : applyLayer noSettings layer = .ok settings)
    (hcustom : (ofFields settings).custom = .obj members) :
    (∀ s ∈ layer, displaces s = false) ∧ Tracks layer settings := by
  have happly := applyLayer_of_object hasCustom_noSettings layer
  have hkeeps : ∀ s ∈ layer, displaces s = false := by
    cases hclash : clash? layer with
    | some f =>
      rw [hclash] at happly
      cases happly.symm.trans h
    | none =>
      rw [hclash] at happly
      obtain ⟨changed, hchanged, custom, hlookup, hwhole⟩ := happly
      cases hchanged.symm.trans h
      rw [ofFields, hlookup] at hcustom
      obtain rfl : custom = .obj members := hcustom
      simpa [isObject] using hwhole.symm
  refine ⟨hkeeps, ?_⟩
  obtain ⟨changed, hchanged, htracks⟩ := tracks_noSettings.layer hkeeps
  cases hchanged.symm.trans h
  exact htracks

/-- A configuration with an object for its custom settings was made of layers none of which
displaced them. -/
theorem exists_tracks_of_load {defaults : Defaults τ} {d : Directory} {language : String}
    {overrides : Value τ} {file : Value} (h : load defaults d language overrides file = .ok config)
    (hcustom : config.custom = .obj members) :
    ∃ base read changes settings,
      Layers defaults d language overrides file base read changes ∧
      (∀ s ∈ base ++ read ++ changes, displaces s = false) ∧
      Tracks (base ++ read ++ changes) settings ∧ config = ofFields settings := by
  obtain ⟨base, read, changes, settings, hlayers, hall, haccept⟩ := exists_layers_of_load h
  obtain rfl : ofFields settings = config := by
    rw [accept] at haccept
    split at haccept
    · cases haccept; rfl
    · cases haccept
  obtain ⟨hkeeps, htracks⟩ := tracks_of_applyLayer hall hcustom
  exact ⟨base, read, changes, settings, hlayers, hkeeps, htracks, rfl⟩

/-- Configurations are the same if their fields are. -/
theorem ext_of_lookup {c c' : Config τ}
    (h : ∀ key ∈ fieldNames, Value.lookup key c.fields = Value.lookup key c'.fields) : c = c' := by
  simp only [mem_fieldNames, forall_eq_or_imp, forall_eq, lookup_fields, Option.some.injEq] at h
  obtain ⟨hpublic, hsplit, hcomments, hadd, hending, hcustom⟩ := h
  cases c
  cases c'
  subst hpublic hsplit hcomments hadd hending hcustom
  rfl

/-! ## The defaults -/

theorem baseOf_zig : baseOf languageDefaults "zig" =
    .ok [(lit "custom", .obj (zigSettings : List (τ × Value τ)))] := by
  have hlower : Text.lower "zig" = "zig" := by rfl
  rw [baseOf, hlower, lookup_zig]
  rfl

theorem customWrites_zig (layer : List (τ × Value τ)) :
    customWrites ((lit "custom", .obj zigSettings) :: layer) =
      zigSettings ++ customWrites layer := by
  rw [customWrites, List.flatMap_cons, writesOf_custom]
  rfl

theorem putAll_zigSettings : Value.putAll zigSettings [] = (zigSettings : List (τ × Value τ)) :=
  Value.putAll_of_new nodup_zigSettings

/-! ## Without the names of fields -/

variable {d saved : Directory} {overrides : Value τ} {file : Value} {name : String}

/-- The layers of a configuration that is loaded from the file in which one was saved. -/
theorem layers_saved (hname : name ≠ "")
    (hread : readFile saved name = .ok (flat config members)) :
    Layers languageDefaults saved "zig" .null (.str name) [(lit "custom", .obj zigSettings)]
      (flat config members) [] where
  base := baseOf_zig
  file := by
    rw [settingsOf, layerOfFile, if_neg (by simpa using hname), Option.getD_some, hread]
  overrides := rfl

/-- The custom settings of a configuration are made of the default ones. -/
theorem exists_members_eq (hload : load languageDefaults d "zig" overrides file = .ok config)
    (hcustom : config.custom = .obj members) : ∃ rest, members = Value.putAll rest zigSettings := by
  obtain ⟨base, read, changes, settings, hlayers, _, htracks, rfl⟩ :=
    exists_tracks_of_load hload hcustom
  obtain rfl := Except.ok.inj (hlayers.base.symm.trans baseOf_zig)
  have hmembers := Value.obj.inj (hcustom.symm.trans htracks.custom_eq)
  rw [List.append_assoc, List.singleton_append, customWrites_zig, Value.putAll_append,
    putAll_zigSettings] at hmembers
  exact ⟨_, hmembers⟩

theorem nodup_of_load (hload : load languageDefaults d "zig" overrides file = .ok config)
    (hcustom : config.custom = .obj members) : (members.map (·.1)).Nodup := by
  obtain ⟨rest, rfl⟩ := exists_members_eq hload hcustom
  exact Value.nodup_putAll nodup_zigSettings rest

/-- A generic field comes before the custom settings. -/
theorem lookup_generic (config : Config τ) {key : τ} (hfield : key ∈ fieldNames)
    (hkey : key ≠ lit "custom") : ∃ v, Value.lookup key (config.fields.take 5) = some v ∧
      Value.lookup key config.fields = some v := by
  have hmem : key ∈ (config.fields.take 5).map (·.1) := mem_genericNames.mpr ⟨hfield, hkey⟩
  obtain ⟨v, hv⟩ := Option.ne_none_iff_exists'.mp
    (mt Value.lookup_eq_none_iff.mp (not_not.mpr hmem))
  refine ⟨v, hv, ?_⟩
  rw [← List.take_append_drop 5 config.fields, Value.lookup_append, hv]
  rfl

theorem flat_eq_append (hnodup : (members.map (·.1)).Nodup)
    (hfree : ∀ key ∈ members.map (·.1), key ∉ fieldNames) :
    flat config members = config.fields.take 5 ++ members := by
  refine Value.putAll_of_new ?_
  rw [List.map_append, keys_generic]
  refine List.Nodup.append (nodup_fieldNames.sublist (List.take_sublist ..)) hnodup
    fun key hgeneric hmember => ?_
  exact hfree key hmember (List.mem_of_mem_take hgeneric)

/-- Settings under keys of their own are all custom settings. -/
theorem customWrites_of_free (hfree : ∀ key ∈ members.map (·.1), key ∉ fieldNames) :
    customWrites members = members := by
  induction members with
  | nil => rfl
  | cons m rest ih =>
    rw [List.map_cons, List.forall_mem_cons] at hfree
    have hkey : m.1 ≠ lit "custom" := fun heq => hfree.1 (heq ▸ custom_mem_fieldNames)
    have hwrites : writesOf m = [m] := by simp [writesOf, hkey, hfree.1]
    show writesOf m ++ customWrites rest = m :: rest
    rw [ih hfree.2, hwrites]
    rfl

theorem customWrites_generic (config : Config τ) : customWrites (config.fields.take 5) = [] := by
  refine List.flatMap_eq_nil_iff.mpr fun f hf => ?_
  have hkey : f.1 ∈ fieldNames.take 5 := List.mem_map_of_mem hf
  obtain ⟨hfield, hne⟩ := mem_genericNames.mp hkey
  simp [writesOf, hfield, hne]

section Free

variable (hnodup : (members.map (·.1)).Nodup) (hfree : ∀ key ∈ members.map (·.1), key ∉ fieldNames)
include hnodup hfree

theorem displaces_flat : ∀ s ∈ (lit "custom", Value.obj zigSettings) :: flat config members,
    displaces s = false := by
  intro s hs
  rw [flat_eq_append hnodup hfree, List.mem_cons, List.mem_append] at hs
  rcases hs with rfl | hs | hs
  · exact (displaces_custom _).trans rfl
  · have hkey : s.1 ∈ fieldNames.take 5 := List.mem_map_of_mem hs
    have hne : s.1 ≠ lit "custom" := (mem_genericNames.mp hkey).2
    simp [displaces, hne]
  · have hne : s.1 ≠ lit "custom" := fun heq =>
      hfree s.1 (List.mem_map_of_mem hs) (heq ▸ custom_mem_fieldNames)
    simp [displaces, hne]

omit hnodup in
/-- A generic field is loaded as it was saved. -/
theorem Tracks.lookup_saved {settings : List (τ × Value τ)}
    (h : Tracks ((lit "custom", .obj zigSettings) :: flat config members) settings) {key : τ}
    (hfield : key ∈ fieldNames) (hkey : key ≠ lit "custom") :
    Value.lookup key (ofFields settings).fields = Value.lookup key config.fields := by
  obtain ⟨v, hv, hfields⟩ := lookup_generic config hfield hkey
  have hnone : last? key members = none :=
    Value.last?_eq_none_iff.mpr fun hmem => hfree key hmem hfield
  rw [lookup_fields_ofFields hfield, h.fields key hfield hkey, ← List.singleton_append,
    Value.last?_append, Value.last?_eq_lookup (nodup_flat config members), lookup_flat, hnone, hv,
    hfields]
  rfl

/-- Custom settings that were made of the default ones are loaded as they were saved. -/
theorem Tracks.custom_saved {settings : List (τ × Value τ)}
    (h : Tracks ((lit "custom", .obj zigSettings) :: flat config members) settings)
    (hagain : Value.putAll members zigSettings = members) :
    (ofFields settings).custom = .obj members := by
  have hwrites : customWrites (flat config members) = members := by
    rw [flat_eq_append hnodup hfree, customWrites_append, customWrites_generic,
      customWrites_of_free hfree, List.nil_append]
  rw [h.custom_eq, customWrites_zig, hwrites, Value.putAll_append,
    putAll_zigSettings, hagain]

end Free

/-- Without the names of fields among the custom settings, what is loaded is what was saved. -/
theorem load_saved_of_free (hload : load languageDefaults d "zig" overrides file = .ok config)
    (hcustom : config.custom = .obj members) (hname : name ≠ "")
    (hread : readFile saved name = .ok (flat config members))
    (hfree : ∀ key ∈ members.map (·.1), key ∉ fieldNames) :
    load languageDefaults saved "zig" .null (.str name) = .ok config := by
  obtain ⟨rest, hmembers⟩ := exists_members_eq hload hcustom
  have hnodup := nodup_of_load hload hcustom
  have hagain : Value.putAll members zigSettings = members := by
    rw [hmembers]
    exact Value.putAll_putAll nodup_zigSettings rest
  have hkeeps : ∀ s ∈ (lit "custom", Value.obj zigSettings) :: flat config members,
      displaces s = false := displaces_flat hnodup hfree
  obtain ⟨settings, hsettings, htracks⟩ := tracks_noSettings.layer hkeeps
  have hsame : ofFields settings = config := ext_of_lookup fun key hfield => by
    by_cases hkey : key = lit "custom"
    · subst hkey
      rw [(lookup_fields _).2.2.2.2.2, (lookup_fields _).2.2.2.2.2]
      rw [htracks.custom_saved hnodup hfree hagain, hcustom]
    · exact htracks.lookup_saved hfree hfield hkey
  rw [(layers_saved hname hread).load_eq (by rwa [List.append_nil]), hsame, accept,
    (problems_eq_nil_iff config).mpr (isValid_of_load hload)]

/-! ## With the name of a field -/

/-- A setting that makes a custom setting with the name of a field has it under `custom`. -/
theorem exists_nested_of_writesOf {s : τ × Value τ} {key : τ} (hfield : key ∈ fieldNames)
    {v : Value τ} (h : last? key (writesOf s) = some v) :
    ∃ ns, s = (lit "custom", .obj ns) ∧ last? key ns = some v := by
  obtain ⟨k, value⟩ := s
  rw [writesOf] at h
  split at h
  · next hkey =>
    obtain rfl : k = lit "custom" := hkey
    cases value with
    | obj ns => exact ⟨ns, rfl, h⟩
    | _ => cases h
  · split at h
    · cases h
    · next hother =>
      rw [Value.last?_singleton] at h
      split at h
      · next heq => exact absurd (heq ▸ hfield) hother
      · cases h

theorem exists_nested_of_customWrites {layer : List (τ × Value τ)} {key : τ}
    (hfield : key ∈ fieldNames) {v : Value τ} (h : last? key (customWrites layer) = some v) :
    ∃ ns, (lit "custom", .obj ns) ∈ layer ∧ last? key ns = some v := by
  induction layer using List.reverseRecOn with
  | nil => cases h
  | append_singleton layer s ih =>
    have hwrites : customWrites [s] = writesOf s := List.append_nil _
    rw [customWrites_append, Value.last?_append, hwrites] at h
    cases hlast : last? key (writesOf s) with
    | none =>
      rw [hlast] at h
      obtain ⟨ns, hns, hv⟩ := ih h
      exact ⟨ns, List.mem_append_left _ hns, hv⟩
    | some w =>
      rw [hlast] at h
      obtain ⟨ns, rfl, hv⟩ := exists_nested_of_writesOf hfield hlast
      exact ⟨ns, by simp, hv.trans h⟩

/-- A custom setting that is loaded under the name of a field was saved under `custom`. -/
theorem Tracks.exists_nested {settings ns : List (τ × Value τ)}
    (h : Tracks ((lit "custom", .obj zigSettings) :: flat config members) settings)
    (hcustom : (ofFields settings).custom = .obj ns) {key : τ} (hfield : key ∈ fieldNames)
    {v : Value τ} (hv : last? key ns = some v) :
    ∃ nested, (lit "custom", .obj nested) ∈ flat config members ∧ last? key nested = some v := by
  have hns := Value.obj.inj (hcustom.symm.trans h.custom_eq)
  have hnodup : (ns.map (·.1)).Nodup := by
    rw [hns]
    exact Value.nodup_putAll_nil _
  have hwrites : last? key
      (customWrites ((lit "custom", .obj zigSettings) :: flat config members)) = some v := by
    rwa [Value.last?_eq_lookup hnodup, hns, Value.lookup_putAll, Value.lookup, Option.or_none] at hv
  obtain ⟨nested, hmem, hnested⟩ := exists_nested_of_customWrites hfield hwrites
  rcases List.mem_cons.mp hmem with heq | hmem
  · -- the defaults have no setting with the name of a field
    obtain rfl : nested = zigSettings := Value.obj.inj (Prod.mk.inj heq).2
    rw [Value.last?_eq_none_iff.mpr (not_mem_zigSettings key hfield)] at hnested
    cases hnested
  · exact ⟨nested, hmem, hnested⟩

/-- What was saved under `custom` is a custom setting of that name. -/
theorem last?_custom_of_mem {nested : List (τ × Value τ)}
    (h : (lit "custom", .obj nested) ∈ flat config members) :
    last? (lit "custom") members = some (.obj nested) := by
  have hlookup := Value.lookup_of_mem (nodup_flat config members) h
  have hnone : Value.lookup (lit "custom") (config.fields.take 5) = none := by
    rw [Value.lookup_eq_none_iff, keys_generic, mem_genericNames]
    exact fun h => h.2 rfl
  rwa [lookup_flat, hnone, Option.or_none] at hlookup

/-- What is loaded from the file is made of the defaults and of what was saved. -/
theorem exists_tracks_of_load_saved (hname : name ≠ "")
    (hread : readFile saved name = .ok (flat config members)) {loaded : Config τ}
    (hloaded : load languageDefaults saved "zig" .null (.str name) = .ok loaded)
    {ns : List (τ × Value τ)} (hns : loaded.custom = .obj ns) :
    ∃ settings, Tracks ((lit "custom", .obj zigSettings) :: flat config members) settings ∧
      loaded = ofFields settings := by
  obtain ⟨base, read, changes, settings, hlayers, _, htracks, rfl⟩ :=
    exists_tracks_of_load hloaded hns
  have hsaved := layers_saved hname hread
  obtain rfl := Except.ok.inj (hlayers.base.symm.trans hsaved.base)
  obtain rfl := Except.ok.inj (hlayers.file.symm.trans hsaved.file)
  obtain rfl := Except.ok.inj (hlayers.overrides.symm.trans hsaved.overrides)
  rw [List.append_nil, List.singleton_append] at htracks
  exact ⟨settings, htracks, rfl⟩

/-- If what is loaded is the same as what was saved, no custom setting has the name of a field: such
a setting can only come from an object under `custom` among the custom settings, which would have to
equal what it has itself under `custom`. -/
theorem free_of_same (hcustom : config.custom = .obj members) (hname : name ≠ "")
    (hread : readFile saved name = .ok (flat config members))
    {same : Value τ → Value τ → Prop} (hsame : Value.IsEquality same) {loaded : Config τ}
    (hloaded : load languageDefaults saved "zig" .null (.str name) = .ok loaded)
    (hfields : SameFields same config loaded) :
    ∀ key ∈ members.map (·.1), key ∉ fieldNames := by
  intro key hmem hfield
  have hboth : same (.obj members) loaded.custom := by
    simp only [SameFields, fields, fieldNames, List.map_cons, List.zip_cons_cons,
      List.forall₂_cons] at hfields
    exact hcustom ▸ hfields.2.2.2.2.2.1.2
  obtain ⟨ns, hns, hmembers⟩ := hsame.exists_members hboth
  obtain ⟨settings, htracks, rfl⟩ := exists_tracks_of_load_saved hname hread hloaded hns
  obtain ⟨v, hv⟩ := Option.ne_none_iff_exists'.mp
    (mt Value.last?_eq_none_iff.mp (not_not.mpr hmem))
  obtain ⟨w, hw, _⟩ := hmembers hv
  obtain ⟨nested, hnested, _⟩ := htracks.exists_nested hns hfield hw
  have hcustomSetting := last?_custom_of_mem hnested
  obtain ⟨inner, hinner, hequal⟩ := hmembers hcustomSetting
  obtain ⟨nested', hnested', hlast⟩ := htracks.exists_nested hns custom_mem_fieldNames hinner
  obtain rfl : nested = nested' := by
    have heq := hcustomSetting.symm.trans (last?_custom_of_mem hnested')
    exact Value.obj.inj (Option.some.inj heq)
  exact hsame.not_same_member hlast hequal

/-! ## Files that can be written -/

/-- A torn text is somewhere in a configuration. -/
def IsTorn (c : Config τ) : Prop := ∃ f ∈ c.fields, f.2.IsTorn

/-- Under a path that can be written, settings are saved as a text, or there is a torn text among
them and the file is left empty. -/
theorem save_cases {before : Directory} {settings : List (τ × Value τ)}
    (hflatten : config.flatten = .ok settings)
    (hwritable : ∃ written, before.write (Path.ofText name) "" = .ok written) :
    (∃ text written, config.savedText? = .ok (some text) ∧
      before.write (Path.ofText name) text = .ok written ∧
      save before config name = (written, .ok ()) ∧ ¬ (Value.obj settings).IsTorn) ∨
    (Value.obj settings).IsTorn ∧ (save before config name).2 = .error (.fault .badText) := by
  obtain ⟨emptied, hemptied⟩ := hwritable
  have htext := savedText?_eq hflatten
  rw [← Value.whole?_eq_none_iff]
  cases hwhole : (Value.obj settings).whole? with
  | none =>
    rw [hwhole] at htext
    refine .inr ⟨rfl, ?_⟩
    simp only [save, htext, Option.map_none, Option.getD_none, hemptied]
    rfl
  | some w =>
    rw [hwhole] at htext
    obtain ⟨written, hwritten⟩ := Directory.exists_write hemptied (Value.toJson (some 2) w)
    refine .inl ⟨_, written, htext, hwritten, ?_, Option.some_ne_none w⟩
    simp only [save, htext, Option.map_some, Option.getD_some, hwritten]
    rfl

theorem exists_save {before : Directory} {settings : List (τ × Value τ)}
    (hflatten : config.flatten = .ok settings)
    (hwritable : ∃ written, before.write (Path.ofText name) "" = .ok written)
    (hwhole : ¬ (Value.obj settings).IsTorn) :
    ∃ saved, save before config name = (saved, .ok ()) := by
  rcases save_cases hflatten hwritable with ⟨_, written, _, _, hsave, _⟩ | ⟨htorn, _⟩
  · exact ⟨written, hsave⟩
  · exact absurd htorn hwhole

omit [DecidableEq τ] in
/-- A file that was saved is read as what was saved. -/
theorem readFile_of_write {before written : Directory} {text : String}
    {settings : List (τ × Value τ)} (hsuffix : Text.lower (Path.ofText name).suffix = ".json")
    (hjson : Value.ofJson text = .ok (Value.obj settings).raw)
    (hwrite : before.write (Path.ofText name) text = .ok written) :
    readFile written name = .ok settings := by
  rw [readFile_eq (Directory.read_of_write hwrite) hsuffix, Value.ofBytes_toUTF8 rfl, hjson]
  dsimp only
  rw [Value.ofRaw?_eq_some_iff.mpr rfl]

/-- Without the names of fields among the custom settings, all that is in a configuration is
saved. -/
theorem isTorn_flat_iff (hcustom : config.custom = .obj members)
    (hnodup : (members.map (·.1)).Nodup) (hfree : ∀ key ∈ members.map (·.1), key ∉ fieldNames) :
    (Value.obj (flat config members)).IsTorn ↔ config.IsTorn := by
  have hfields : config.fields = config.fields.take 5 ++ [(lit "custom", .obj members)] := by
    rw [← hcustom]
    rfl
  have hkeys : ∀ f ∈ config.fields.take 5, ¬ TextLike.IsTorn f.1 := fun f hf => by
    have hkey : f.1 ∈ fieldNames.take 5 := List.mem_map_of_mem hf
    obtain ⟨word, _, heq⟩ := List.mem_map.mp (List.mem_of_mem_take hkey)
    exact heq ▸ TextLike.not_isTorn_lit word
  rw [Value.isTorn_obj_iff, flat_eq_append hnodup hfree]
  constructor
  · rintro ⟨m, hm, htorn⟩
    rcases List.mem_append.mp hm with hm | hm
    · exact ⟨m, List.mem_of_mem_take hm, htorn.resolve_left (hkeys m hm)⟩
    · exact ⟨(lit "custom", .obj members), by rw [hfields]; simp,
        Value.isTorn_obj_iff.mpr ⟨m, hm, htorn⟩⟩
  · rintro ⟨f, hf, htorn⟩
    rw [hfields] at hf
    rcases List.mem_append.mp hf with hf | hf
    · exact ⟨f, List.mem_append_left _ hf, .inr htorn⟩
    · obtain rfl := List.mem_singleton.mp hf
      obtain ⟨m, hm, htorn⟩ := Value.isTorn_obj_iff.mp htorn
      exact ⟨m, List.mem_append_right _ hm, htorn⟩

/-! ## Both ways -/

/-- A configuration whose custom settings are an object is saved under a path that can be written
unless there is a torn text in what is saved. What was saved is loaded again just if no custom
setting has the name of a field, and then exactly. With such a setting, what is loaded differs from
what was saved, whatever order members of objects come in and whatever else counts as equal. -/
theorem load_saved_iff (hload : load languageDefaults d "zig" overrides file = .ok config)
    (hcustom : config.custom = .obj members) (hfaithful : config.SavesFaithfully)
    (hsuffix : Text.lower (Path.ofText name).suffix = ".json") {before : Directory}
    (hwritable : ∃ written, before.write (Path.ofText name) "" = .ok written) :
    let (saved, outcome) := save before config name
    let reloaded := load languageDefaults saved "zig" .null (.str name)
    let isFree := ∀ key ∈ members.map (·.1), key ∉ fieldNames
    (outcome = .ok () ∨ outcome = .error (.fault .badText)) ∧
    (∀ settings, config.flatten = .ok settings →
      (outcome = .error (.fault .badText) ↔ (Value.obj settings).IsTorn)) ∧
    (outcome = .ok () → isFree → reloaded = .ok config) ∧
    ∀ same, Value.IsEquality same →
      ((outcome = .ok () ∧ ∃ loaded, reloaded = .ok loaded ∧ SameFields same config loaded) ↔
        isFree ∧ ¬ config.IsTorn) := by
  have hname := ne_empty_of_suffix hsuffix
  have hflatten := flatten_eq hcustom
  have htorn := isTorn_flat_iff hcustom (nodup_of_load hload hcustom)
  rcases save_cases hflatten hwritable with
    ⟨text, written, htext, hwrite, hsave, hwhole⟩ | ⟨hflat, hbad⟩
  · have hread := readFile_of_write hsuffix (hfaithful _ _ hflatten htext) hwrite
    have hback := load_saved_of_free hload hcustom hname hread
    rw [hsave]
    refine ⟨.inl rfl, fun settings hsettings => ?_, fun _ => hback, fun same hsame =>
      ⟨?_, fun ⟨hfree, _⟩ => ⟨rfl, config, hback hfree, ?_⟩⟩⟩
    · cases hflatten.symm.trans hsettings
      exact ⟨nofun, fun h => absurd h hwhole⟩
    · rintro ⟨-, loaded, hloaded, hfields⟩
      have hfree := free_of_same hcustom hname hread hsame hloaded hfields
      exact ⟨hfree, (htorn hfree).not.mp hwhole⟩
    · exact List.forall₂_same.mpr fun f _ => ⟨rfl, hsame.refl f.2⟩
  · rcases hsave : save before config name with ⟨saved, outcome⟩
    obtain rfl : outcome = .error (.fault .badText) := by rw [hsave] at hbad; exact hbad
    refine ⟨.inr rfl, fun settings hsettings => ?_, nofun, fun same _ => ⟨?_, ?_⟩⟩
    · cases hflatten.symm.trans hsettings
      exact ⟨fun _ => hflat, fun _ => rfl⟩
    · rintro ⟨hok, -⟩
      cases hok
    · rintro ⟨hfree, hnot⟩
      exact absurd ((htorn hfree).mp hflat) hnot

/-- The defaults with one more custom setting. -/
def withSetting (key : String) (value : Value RawText) : Config RawText :=
  { default with custom := .obj (zigSettings ++ [(lit key, value)]) }

/-- A setting of its own is loaded again, one with the name of a field is not, and one with half of
a surrogate pair is not even saved. -/
theorem load_saved_iff_setting :
    (∃ saved, save .empty (withSetting "tag" (.bool false)) "a.json" = (saved, .ok ()) ∧
      load languageDefaults saved "zig" .null (.str "a.json") =
        .ok (withSetting "tag" (.bool false))) ∧
    (∃ saved, save .empty (withSetting "public" (.bool false)) "a.json" = (saved, .ok ()) ∧
      ¬ ∃ loaded, load languageDefaults saved "zig" .null (.str "a.json") = .ok loaded ∧
        SameFields (· = ·) (withSetting "public" (.bool false)) loaded) ∧
    (save .empty (withSetting "tag" (.str ⟨[.half 0]⟩)) "a.json").2 =
      .error (.fault .badText) := by
  have hsuffix : Text.lower (Path.ofText "a.json").suffix = ".json" := by
    rw [Path.ofText_single]
    rfl
  have hwritable : ∃ written, Directory.empty.write (Path.ofText "a.json") "" = .ok written := by
    rw [Path.ofText_single]
    exact ⟨_, rfl⟩
  have hfaithful : ∀ key value, value.IsExact → (withSetting key value).SavesFaithfully :=
    fun key value hvalue => savesFaithfully ⟨rfl, rfl, rfl, rfl, rfl⟩ rfl (by
      simp [zigSettings, Value.IsExact.str, hvalue])
  have hlayers : ∀ changes, Layers (languageDefaults : Defaults RawText) .empty "zig"
      (.obj changes) .null [(lit "custom", .obj zigSettings)] [] changes := fun changes =>
    ⟨baseOf_zig, rfl, overridesOf_obj changes⟩
  have htag : ∀ value, load languageDefaults .empty "zig" (.obj [(lit "tag", value)]) .null =
      .ok (withSetting "tag" value) := fun value => ((hlayers _).load_eq rfl).trans rfl
  have hpublic : load languageDefaults .empty "zig"
      (.obj [(lit "custom", .obj [(lit "public", .bool false)])]) .null =
        .ok (withSetting "public" (.bool false)) := ((hlayers _).load_eq rfl).trans rfl
  have hsaves : ∀ key settings, (withSetting key (.bool false)).flatten = .ok settings →
      (Value.obj settings).whole? ≠ none →
      ∃ saved, save .empty (withSetting key (.bool false)) "a.json" = (saved, .ok ()) :=
    fun _ _ hflatten hwhole =>
      exists_save hflatten hwritable (mt Value.whole?_eq_none_iff.mpr hwhole)
  refine ⟨?_, ?_, ?_⟩
  · obtain ⟨saved, hsave⟩ := hsaves "tag" _ rfl (Option.some_ne_none _)
    have h := load_saved_iff (htag (.bool false)) rfl (hfaithful _ _ (.bool _)) hsuffix hwritable
    rw [hsave] at h
    exact ⟨saved, hsave, h.2.2.1 rfl (by decide)⟩
  · obtain ⟨saved, hsave⟩ := hsaves "public" _ rfl (Option.some_ne_none _)
    have h := load_saved_iff hpublic rfl (hfaithful _ _ (.bool _)) hsuffix hwritable
    rw [hsave] at h
    obtain ⟨-, -, -, hiff⟩ := h
    refine ⟨saved, hsave, fun hloaded => ?_⟩
    obtain ⟨hfree, -⟩ := (hiff _ Value.isEquality_eq).mp ⟨rfl, hloaded⟩
    exact hfree (lit "public") (by decide) (by decide)
  · have h := load_saved_iff (htag (.str ⟨[.half 0]⟩)) rfl (hfaithful _ _ (.str _)) hsuffix
      hwritable
    rcases hsave : save .empty (withSetting "tag" (.str ⟨[.half 0]⟩)) "a.json" with
      ⟨saved, outcome⟩
    rw [hsave] at h
    refine (h.2.1 _ rfl).mpr ?_
    rw [← Value.whole?_eq_none_iff]
    rfl

end Config

end ZigDecl
