import ZigDecl.Log
import ZigDecl.Zig.Options

/-! # Options that may be chosen

Main statement: the options of a configuration are valid, that is, every type of numbers and texts
is one of the choices there are for it. -/

namespace ZigDecl.Zig.Options

/-- What is chosen is one of the choices. -/
theorem mem_of_choose {custom : List (String × Value)} {key fallback s : String}
    {choices : List String} (h : choose custom key fallback choices = .ok s) : s ∈ choices := by
  rw [choose] at h
  split at h
  · split at h
    · next hmem =>
      cases h
      exact List.contains_iff_mem.mp hmem
    · cases h
  · split at h <;> cases h

/-- Options that a configuration may have. -/
structure IsValid (o : Options) : Prop where
  intType : o.intType ∈ intTypes
  floatType : o.floatType ∈ floatTypes
  stringType : o.stringType ∈ stringTypes
  anyType : o.anyType.isTruthy = true

theorem isValid_of_ofConfig {config : Config} {o : Options} (h : ofConfig config = .ok o) :
    o.IsValid := by
  rw [ofConfig] at h
  obtain ⟨custom, _, h⟩ := exists_of_bind_eq_ok h
  obtain ⟨intType, hint, h⟩ := exists_of_bind_eq_ok h
  obtain ⟨floatType, hfloat, h⟩ := exists_of_bind_eq_ok h
  obtain ⟨stringType, hstring, h⟩ := exists_of_bind_eq_ok h
  dsimp only at h
  split at h
  · next hany =>
    cases h
    exact ⟨mem_of_choose hint, mem_of_choose hfloat, mem_of_choose hstring, hany⟩
  · cases h

end ZigDecl.Zig.Options
