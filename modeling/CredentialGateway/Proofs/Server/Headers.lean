/-
The header fields that a backend is sent.

What a backend is sent is said name by name, as the list of the values of that name,
so that no value can be lost, doubled, or put in another place unnoticed.  The names
are listed here once more on purpose, and so is the rule for a value: the equation is
to be read without the definitions that it is about.

The key of the backend comes in last.  It goes under one name only, and only if no
value is left there.
-/
import Mathlib
import CredentialGateway.Proofs.Http.Headers
import CredentialGateway.Server.Forward

namespace CredentialGateway.Server

open Http

/-! ### One value -/

/-- What a header value stands for, itself if no rule applies. -/
def substitutedHeader (get : Lookup) (name text : String) : String :=
  (Substitution.header? get name text).getD text

/-- **What becomes of a header value.**  The fields of the caller's context are passed on as they
are.  Of the others, a value that is readable text is replaced by what it stands for, if that is a
legal value; and any other value is left alone. -/
def forwardedValue (get : Lookup) (name : String) (value : List UInt8) : List UInt8 :=
  if name ∈ ["magic-task-id", "magic-topic-id", "magic-chat-topic-id", "magic-language"] then value
  else
    let result := Utf8.encodeString (substitutedHeader get name (asText value))
    if (∀ b ∈ value, b = 0x09 ∨ 0x20 ≤ b.toNat ∧ b.toNat < 0x7F) ∧
        (∀ b ∈ result, b = 0x09 ∨ 0x20 ≤ b.toNat ∧ b ≠ 0x7F) then result
    else value

theorem substituteValue_eq (get : Lookup) (name : String) (value : List UInt8) :
    substituteValue get name value = forwardedValue get name value := by
  have hverbatim : verbatimFields.contains name = true ↔
      name ∈ ["magic-task-id", "magic-topic-id", "magic-chat-topic-id", "magic-language"] := by
    rw [List.contains_iff_mem, verbatimFields]
  simp only [forwardedValue, ← all_isTextOctet_iff, ← isValue_iff, ← hverbatim]
  rw [substituteValue]
  split
  · rfl
  · cases htext : value.all isTextOctet with
    | false => simp [valueText?, htext]
    | true =>
        rw [valueText?_of_text htext, Option.bind_some, substitutedHeader]
        cases Substitution.header? get name (asText value) with
        | none => simp [encodeString_asText htext]
        | some result =>
            rw [Option.bind_some, Option.getD_some, value?]
            by_cases hlegal : isValue (Utf8.encodeString result) = true
            · simp [hlegal]
            · simp [hlegal]

/-! ### All values of a name -/

/-- The value under which the key of a target is sent, if it makes a legal one. -/
def keyValues (t : Target) : List (List UInt8) :=
  match t.key with
  | none => []
  | some key =>
    let value := Utf8.encodeString ("Bearer " ++ key)
    if ∀ b ∈ value, b = 0x09 ∨ 0x20 ≤ b.toNat ∧ b ≠ 0x7F then [value] else []

theorem addKey_of_present {t : Target} {h : Headers} (hauth : h.values "authorization" ≠ []) :
    addKey t h = h := by
  have hhas : h.has authorizationField = true := by
    rw [← Bool.not_eq_false, Headers.has_eq_false_iff]
    exact hauth
  rw [addKey, if_pos hhas]

theorem addKey_of_absent {t : Target} {h : Headers} (hauth : h.values "authorization" = []) :
    addKey t h = h ++ (keyValues t).map fun value => ("authorization", value) := by
  have hhas : h.has authorizationField = false := Headers.has_eq_false_iff.mpr hauth
  rw [addKey, if_neg (by rw [hhas]; exact Bool.false_ne_true), keyValues]
  cases t.key with
  | none => simp
  | some key =>
      simp only [Option.map_some, Option.bind_some, value?, ← isValue_iff]
      by_cases hlegal : isValue (Utf8.encodeString ("Bearer " ++ key)) = true
      · simp only [hlegal, if_true]
        rfl
      · simp [hlegal]

/-- The key of a target is added where there is no other authorization. -/
theorem values_addKey (t : Target) (h : Headers) (name : String) :
    (addKey t h).values name =
      if name = "authorization" ∧ h.values "authorization" = [] then keyValues t
      else h.values name := by
  by_cases hauth : h.values "authorization" = []
  · rw [addKey_of_absent hauth, Headers.values_append, Headers.values_named]
    by_cases hname : name = "authorization"
    · simp [hname, hauth]
    · simp [hname]
  · rw [addKey_of_present hauth, if_neg fun h => hauth h.2]

/-- The names of the header fields that no backend is sent. -/
def withheldNames : List String :=
  ["host", "content-length", "connection", "x-forwarded-for", "magic-authorization",
    "x-gateway-api-key"]

theorem staysBehind_iff {source : Option Source} {name : String} :
    staysBehind source name = true ↔
      name ∈ withheldNames ∨ name = "authorization" ∧ source = some .authorization := by
  simp only [staysBehind, Bool.or_eq_true, Bool.and_eq_true, decide_eq_true_eq,
    List.contains_iff_mem]
  simp [withheldNames, connectionFields, gatewayFields, tokenField, keyField, authorizationField,
    or_assoc]

theorem values_substituteHeaders (get : Lookup) (source : Option Source) (h : Headers)
    (name : String) :
    (substituteHeaders get source h).values name =
      if staysBehind source name then [] else (h.values name).map (forwardedValue get name) := by
  have hmap := Headers.values_filter_map (staysBehind source) (substituteValue get) h name
  rw [funext (substituteValue_eq get name)] at hmap
  exact hmap

/-- **The header fields that a backend is sent**, name by name. -/
theorem outgoing_headers_exact (get : Lookup) (source : Option Source) (t : Target) (r : Request)
    (body : List UInt8) (name : String) :
    (outgoing get source t r body).headers.values name =
      if name ∈ withheldNames then []
      else if name = "authorization" then
        let kept := if source = some .authorization then []
          else (r.headers.values name).map (forwardedValue get name)
        if kept = [] then keyValues t else kept
      else (r.headers.values name).map (forwardedValue get name) := by
  rw [outgoing, outgoingHeaders, values_addKey, values_substituteHeaders, values_substituteHeaders]
  by_cases hname : name = "authorization"
  · subst hname
    have hsource : staysBehind source "authorization" = true ↔ source = some .authorization := by
      rw [staysBehind_iff]
      simp [withheldNames]
    have hsent : "authorization" ∉ withheldNames := by decide
    simp only [hsource, hsent, if_false, if_true, true_and]
  · have hwithheld : staysBehind source name = true ↔ name ∈ withheldNames := by
      rw [staysBehind_iff]
      simp [hname]
    simp only [hwithheld, hname, if_false, false_and]

end CredentialGateway.Server
