/-
A header value and a string of a body or a query.

A string falls under the first of three rules that applies: it is a name, or it is `env:`
and a name, or it has references in it.  For a header value there is a rule in front for
bearer credentials, and the rule for `env:` is missing.  A value with the bearer scheme
does not start with `env:`, so what is missing only shows where there is no bearer
credential, and there it shows in two ways: the name behind `env:` is not looked up, and
references behind `env:`, which a string keeps, are replaced.
-/
import Mathlib
import CredentialGateway.Proofs.Substitution.Tree

namespace CredentialGateway

/-- A value with the bearer scheme is no explicit reference. -/
theorem Bearer.has_env (name : String) : Bearer.has ("env:" ++ name) = false := by
  have htext : ("env:" ++ name).toList = 'e' :: 'n' :: 'v' :: ':' :: name.toList := by
    rw [String.toList_append]
    rfl
  have hfirst : Text.lowerAscii 'e' ≠ 'b' := by decide
  rw [Bearer.has, Bearer.isScheme, htext]
  simp [Bearer.scheme, hfirst]

namespace Substitution

open Reference

variable {get : Lookup} {field value name : String}

/-! ### The rules that apply -/

/-- A header value that holds no known bearer credential is a name or has references in it. -/
theorem header?_of_no_bearer (h : bearerValue? get field value = none) :
    header? get field value = (get value).or (interpolate? get value) := by
  unfold header?
  rw [h]
  cases get value <;> rfl

/-- Outside of authorizations, and where the bearer scheme is missing, there is no bearer
credential. -/
theorem bearerValue?_eq_none
    (h : Text.sameIgnoringCase field.toList "authorization".toList = false ∨
      Bearer.has value = false) : bearerValue? get field value = none := by
  rw [bearerValue?, if_neg]
  rw [Bool.and_eq_true]
  rintro ⟨hfield, hhas⟩
  rcases h with h | h
  · exact absurd hfield (Bool.eq_false_iff.mp h)
  · exact absurd hhas (Bool.eq_false_iff.mp h)

/-- A string that does not start with `env:` is a name or has references in it. -/
theorem string?_of_no_env (h : ∀ name, value ≠ "env:" ++ name) :
    string? get value = (get value).or (interpolate? get value) := by
  have henv : envName? value = none := by
    cases henv : envName? value with
    | none => rfl
    | some name => exact absurd (envName?_eq_some_iff.mp henv) (h name)
  unfold string?
  rw [henv]
  cases get value <;> rfl

/-- A header value without a bearer credential and without `env:` is replaced as a string is. -/
theorem header?_eq_string? (hbearer : bearerValue? get field value = none)
    (henv : ∀ name, value ≠ "env:" ++ name) : header? get field value = string? get value := by
  rw [header?_of_no_bearer hbearer, string?_of_no_env henv]

/-- A string that starts with `env:`, and is no name as a whole, stands for what the name behind
stands for. -/
theorem string?_of_env (h : get ("env:" ++ name) = none) :
    string? get ("env:" ++ name) = get name := by
  unfold string?
  rw [h, envName?_eq_some_iff.mpr rfl]

/-- References are replaced behind `env:` as if they stood alone. -/
theorem interpolate_env (get : Lookup) (name : String) :
    interpolate get ("env:" ++ name) = "env:" ++ interpolate get name := by
  have hplain : segments "env:".toList = "env:".toList.map .literal := by decide
  have hclosed : endsOpen "env:".toList = false := by decide
  rw [← String.toList_inj, toList_interpolate, String.toList_append, segments_append _ hclosed,
    List.flatMap_append, hplain, flatMap_literals (fun _ => rfl), String.toList_append,
    toList_interpolate]

/-! ### Where the rules agree -/

/-- **When a header value comes out as a string does.**  It does so if it starts with `env:` only
where that leads to the same text: the whole is a name, or what is found behind `env:` is what
replacing the references there makes of it. -/
theorem header_text_eq_iff (h : bearerValue? get field value = none) :
    (header? get field value).getD value = string get value ↔
      ∀ name, value = "env:" ++ name → get value = none →
        "env:" ++ interpolate get name = (get name).getD value := by
  by_cases henv : ∃ name, value = "env:" ++ name
  · obtain ⟨name, rfl⟩ := henv
    rw [header?_of_no_bearer h, string]
    cases hwhole : get ("env:" ++ name) with
    | some whole =>
        have hstring : string? get ("env:" ++ name) = some whole := by
          unfold string?
          rw [hwhole]
        rw [hstring]
        exact iff_of_true rfl fun _ _ hnone => absurd hnone (Option.some_ne_none whole)
    | none =>
        rw [Option.none_or, string?_of_env hwhole, ← interpolate, interpolate_env]
        constructor
        · intro heq other hother _
          rwa [← (String.append_right_inj "env:").mp hother]
        · intro hall
          exact hall name rfl rfl
  · push Not at henv
    rw [header?_eq_string? h henv, string]
    exact iff_of_true rfl fun name hname _ => absurd hname (henv name)

/-- **Header values fall under the rules for strings**, but for `env:`.  A bearer credential that
refers to no name comes out as a string does, and counts as changed when a string does.  So does
every value of a field other than that for authorization, or without the bearer scheme, if it does
not start with `env:`.  One that starts with `env:`, and is no name as a whole, comes out as a string
does exactly if what the name behind stands for, or the value itself if that is no name, is `env:`
and the text behind with its references replaced. -/
theorem header_follows_string_rules (s : Store) (field value : String) :
    (Bearer.has value = true → s.get (bearerName value) = none →
        header? s.get field value = string? s.get value) ∧
      (Text.sameIgnoringCase field.toList "authorization".toList = false ∨
          Bearer.has value = false →
        ((∀ name, value ≠ "env:" ++ name) →
          header? s.get field value = string? s.get value) ∧
        ((header? s.get field value).getD value = string s.get value ↔
          ∀ name, value = "env:" ++ name → s.get value = none →
            "env:" ++ interpolate s.get name = (s.get name).getD value)) := by
  constructor
  · intro hhas hunknown
    have hbearer : bearerValue? s.get field value = none := by
      rw [bearerValue?, hunknown, ite_self]
    have henv : ∀ name, value ≠ "env:" ++ name := by
      rintro name rfl
      rw [Bearer.has_env] at hhas
      cases hhas
    exact header?_eq_string? hbearer henv
  · intro hfield
    have hbearer : bearerValue? s.get field value = none := bearerValue?_eq_none hfield
    exact ⟨header?_eq_string? hbearer, header_text_eq_iff hbearer⟩

/-- A credential with a reference inside, a field of another name with one, and a value behind
`env:` that is no name. -/
theorem references_in_headers_are_replaced :
    let s : Store := ⟨[("OPENAI_MODEL", "gpt-4"), ("REGION", "eu")], "s3cret", by decide,
      by decide, by decide⟩
    header? s.get "AUTHORIZATION" "bearer key-$REGION" = some "bearer key-eu" ∧
      header? s.get "x-model" "${REGION}/OPENAI_MODEL" = some "eu/OPENAI_MODEL" ∧
      (header? s.get "x-model" "env:NOPE").getD "env:NOPE" = "env:NOPE" := by
  intro s
  have hname : Text.sameIgnoringCase "x-model".toList "authorization".toList = false := by decide
  refine ⟨?_, ?_, ?_⟩
  · rw [(header_follows_string_rules s "AUTHORIZATION" "bearer key-$REGION").1 (by decide)
      (by decide +kernel)]
    decide +kernel
  · have hrules := (header_follows_string_rules s "x-model" "${REGION}/OPENAI_MODEL").2
      (.inl hname)
    rw [hrules.1 fun name h => absurd (congrArg String.toList h) (by simp)]
    decide +kernel
  · have hrules := (header_follows_string_rules s "x-model" "env:NOPE").2 (.inl hname)
    rw [hrules.2.mpr]
    · decide +kernel
    · intro name h _
      obtain rfl : "NOPE" = name := (String.append_right_inj "env:").mp h
      decide +kernel

/-- **An explicit reference in a header stays**, where a string is replaced; and what a string
keeps behind `env:` is replaced in a header. -/
theorem env_reference_in_header_stays :
    let s : Store := ⟨[("OPENAI_API_KEY", "sk-1")], "s3cret", by decide, by decide, by decide⟩
    Text.sameIgnoringCase "x-backend-key".toList "authorization".toList = false ∧
      header? s.get "x-backend-key" "env:OPENAI_API_KEY" = none ∧
      string? s.get "env:OPENAI_API_KEY" = some "sk-1" ∧
      header? s.get "x-backend-key" "env:$OPENAI_API_KEY" = some "env:sk-1" ∧
      string? s.get "env:$OPENAI_API_KEY" = none := by
  intro s
  exact ⟨by decide, by decide +kernel, by decide +kernel, by decide +kernel, by decide +kernel⟩

end Substitution

end CredentialGateway
