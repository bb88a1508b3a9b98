/-
The hosts of URLs are bare.

Whatever text a URL is read from, the written form of its host holds none of the
characters that separate a host from the rest: no slash, no question mark, no number sign
and no at sign.  Every way to a host sees to that by itself.  A domain name is checked
after its escapes are undone, addresses are written anew from their numbers, and a host of
another scheme is refused if one of the characters is in it.
-/
import Mathlib
import CredentialGateway.Proofs.Url.Origin
import CredentialGateway.Proofs.Url.Walk
import CredentialGateway.Url

namespace CredentialGateway.Url

/-- The characters that separate a host from the user, the path, the query and the fragment. -/
def marks : List Char := ['/', '?', '#', '@']

/-- Whether none of the marks is in a text. -/
def IsBare (text : List Char) : Prop :=
  ∀ c ∈ text, c ∉ marks

instance (text : List Char) : Decidable (IsBare text) :=
  List.decidableBAll (fun c => c ∉ marks) text

/-! ### Bare texts -/

theorem isBare_nil : IsBare [] := List.forall_mem_nil _

theorem isBare_cons {c : Char} {text : List Char} :
    IsBare (c :: text) ↔ c ∉ marks ∧ IsBare text :=
  List.forall_mem_cons

theorem isBare_append {left right : List Char} :
    IsBare (left ++ right) ↔ IsBare left ∧ IsBare right :=
  List.forall_mem_append

/-- The digits of a number are digits of its base. -/
theorem mem_toDigits {base : Nat} (hbase : 1 < base) {c : Char} (n : Nat)
    (h : c ∈ Nat.toDigits base n) : ∃ d, d < base ∧ c = Nat.digitChar d := by
  induction n using Nat.strong_induction_on with
  | _ n ih =>
      rcases lt_or_ge n base with hlt | hge
      · rw [Nat.toDigits_of_lt_base hlt, List.mem_singleton] at h
        exact ⟨n, hlt, h⟩
      · rw [Nat.toDigits_of_base_le hbase hge, List.mem_append, List.mem_singleton] at h
        rcases h with h | h
        · exact ih (n / base) (Nat.div_lt_self (by omega) hbase) h
        · exact ⟨n % base, Nat.mod_lt n (by omega), h⟩

theorem isBare_toDigits (base : Nat) (hlow : 1 < base) (hhigh : base ≤ 16) (n : Nat) :
    IsBare (Nat.toDigits base n) := by
  intro c hc
  have hall : ∀ d, d < 16 → Nat.digitChar d ∉ marks := by decide
  obtain ⟨d, hd, rfl⟩ := mem_toDigits hlow n hc
  exact hall d (by omega)

/-! ### Written hosts -/

theorem Ipv4.isBare_render (n : Nat) : IsBare (render n) := by
  have hpoint : '.' ∉ marks := by decide
  have hdigits := isBare_toDigits 10 (by omega) (by omega)
  simp only [render, isBare_append, isBare_cons, hdigits, hpoint, not_false_eq_true, and_self]

theorem Ipv6.isBare_renderGroups (ns : List Nat) : IsBare (renderGroups ns) := by
  have hdigits := isBare_toDigits 16 (by omega) (by omega)
  induction ns using renderGroups.induct with
  | case1 => exact isBare_nil
  | case2 n => exact hdigits n
  | case3 n m rest ih =>
      rw [renderGroups, isBare_append, isBare_cons]
      exact ⟨hdigits n, by decide, ih⟩

theorem Ipv6.isBare_render (ns : List Nat) : IsBare (render ns) := by
  rw [render]
  split
  split
  · exact isBare_renderGroups ns
  · rw [isBare_append, isBare_append]
    exact ⟨⟨isBare_renderGroups _, by decide⟩, isBare_renderGroups _⟩

namespace Host

theorem isBare_of_bracketed? {text : List Char} {host : Host} (h : bracketed? text = some host) :
    IsBare host.render := by
  rw [bracketed?] at h
  split_ifs at h
  obtain ⟨numbers, -, rfl⟩ := Option.map_eq_some_iff.mp h
  rw [render, isBare_append, isBare_cons]
  exact ⟨⟨by decide, Ipv6.isBare_render numbers⟩, by decide⟩

/-- What is read as a domain name is checked for the marks. -/
theorem isBare_of_domain {text name : List Char} (h : Domain.parse? text = some name) :
    IsBare name := by
  simp only [Domain.parse?, Option.bind_eq_bind, Option.bind_eq_some_iff] at h
  obtain ⟨decoded, -, ascii, -, h⟩ := h
  split_ifs at h with hrefused
  obtain rfl := Option.some.inj h
  have hforbidden : ascii.any Domain.isForbidden = false :=
    (Bool.or_eq_false_iff.mp (Bool.eq_false_iff.mpr hrefused)).2
  have hmarks : marks.all Domain.isForbidden = true := by decide
  intro c hc hmark
  exact List.any_eq_false.mp hforbidden c hc (List.all_eq_true.mp hmarks c hmark)

theorem isBare_of_special? {text : List Char} {host : Host} (h : special? text = some host) :
    IsBare host.render := by
  rw [special?] at h
  split_ifs at h
  · exact isBare_of_bracketed? h
  · obtain ⟨name, hname, h⟩ := Option.bind_eq_some_iff.mp h
    split_ifs at h
    · obtain ⟨address, -, rfl⟩ := Option.map_eq_some_iff.mp h
      exact Ipv4.isBare_render address
    · obtain rfl := Option.some.inj h
      exact isBare_of_domain hname

theorem isBare_of_other? {text : List Char} {host : Host} (h : other? text = some host) :
    IsBare host.render := by
  rw [other?] at h
  split_ifs at h with hbracket hforbidden
  · exact isBare_of_bracketed? h
  · obtain rfl := Option.some.inj h
    have hmarks : marks.all (fun c => isForbidden c && c.toNat < 0x80 && c ∉ escapeChars) = true :=
      by decide
    intro c hc hmark
    have hkinds := List.all_eq_true.mp hmarks c hmark
    simp only [Bool.and_eq_true, decide_eq_true_eq] at hkinds
    obtain ⟨⟨hkind, hascii⟩, hescape⟩ := hkinds
    refine not_mem_escape hascii hescape ?_ hc
    intro hmem
    exact hforbidden (List.any_eq_true.mpr ⟨c, hmem, hkind⟩)

theorem IsRead.isBare {host : Host} (h : IsRead host) : IsBare host.render := by
  obtain ⟨text, h | h⟩ := h
  · exact isBare_of_special? h
  · exact isBare_of_other? h

end Host

/-! ### Hosts of URLs -/

/-- **The host of a URL is bare**, whatever text the URL is read from. -/
theorem isBare_host {text : String} {u : Url} {host : Host} (h : parse? text = some u)
    (hhost : u.host = some host) : IsBare host.render := by
  obtain ⟨⟨scheme, rest⟩, -, h⟩ := Option.bind_eq_some_iff.mp h
  exact ((isReadUnder_of_ofScheme? h).host_isRead host hhost).isBare

/-- A host whose escapes undo to a mark is refused. -/
example : parse? "http://user%40a.example%2Fb/" = none := by decide +kernel

end CredentialGateway.Url
