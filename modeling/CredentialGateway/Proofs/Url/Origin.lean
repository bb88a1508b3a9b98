/-
A slash behind a URL does not change its origin.

Scheme, host and port are read from the front of a text, and the part that names host and
port ends at the first slash behind it.  So what is put behind a URL and a slash is read
as path, query and fragment, and no text there, however it is made, moves the URL to
another server.

There is one way in which the text before the slash counts for more than in the URL
alone: white space at its end, which a URL does not keep, stands inside now.  It then ends
the port or the host, and neither can be read: the longer text is no URL at all.
-/
import Mathlib
import CredentialGateway.Proofs.Url.Domain
import CredentialGateway.Url

namespace CredentialGateway.Url

/-- Whether two URLs have the same scheme, host and port. -/
structure SameOrigin (u v : Url) : Prop where
  scheme_eq : v.scheme = u.scheme
  host_eq : v.host = u.host
  port_eq : v.port = u.port

/-! ### The scheme and the host -/

/-- Whether a host is one that a text names, under a special scheme or another. -/
def Host.IsRead (host : Host) : Prop :=
  ∃ text, special? text = some host ∨ other? text = some host

/-- Whether a URL has the scheme that it is read under, and no host but one that is read. -/
structure IsReadUnder (scheme : List Char) (u : Url) : Prop where
  scheme_eq : u.scheme = scheme
  host_isRead : ∀ host, u.host = some host → host.IsRead

theorem isReadUnder_of_ofAuthority? {scheme text : List Char} {u : Url}
    (h : ofAuthority? scheme text = some u) : IsReadUnder scheme u := by
  simp only [ofAuthority?, Option.bind_eq_bind, Option.bind_eq_some_iff] at h
  obtain ⟨port, -, h⟩ := h
  split_ifs at h
  · cases h
    exact ⟨rfl, fun host hhost => by cases hhost⟩
  · obtain ⟨read, hread, h⟩ := Option.bind_eq_some_iff.mp h
    cases h
    exact ⟨rfl, fun host hhost => ⟨_, .inl (hread.trans hhost)⟩⟩
  · obtain ⟨read, hread, h⟩ := Option.bind_eq_some_iff.mp h
    cases h
    exact ⟨rfl, fun host hhost => ⟨_, .inr (hread.trans hhost)⟩⟩

theorem isReadUnder_of_ofFile? {scheme text : List Char} {u : Url}
    (h : ofFile? scheme text = some u) : IsReadUnder scheme u := by
  have hnoHost : ∀ {text : List Char}, ofFile?.noHost scheme text = some u →
      IsReadUnder scheme u := by
    intro text h
    rw [ofFile?.noHost] at h
    cases h
    exact ⟨rfl, fun host hhost => by cases hhost⟩
  rw [ofFile?.eq_def] at h
  split at h
  · simp only at h
    split_ifs at h
    · exact hnoHost h
    · obtain ⟨read, hread, h⟩ := Option.bind_eq_some_iff.mp h
      cases h
      refine ⟨rfl, fun host hhost => ?_⟩
      simp only [assemble] at hhost
      split_ifs at hhost
      exact ⟨_, .inl (hread.trans hhost)⟩
    · exact hnoHost h
  · exact hnoHost h

theorem isReadUnder_of_ofScheme? {scheme rest : List Char} {u : Url}
    (h : ofScheme? scheme rest = some u) : IsReadUnder scheme u := by
  rw [ofScheme?.eq_def] at h
  split_ifs at h
  · exact isReadUnder_of_ofFile? h
  · exact isReadUnder_of_ofAuthority? h
  · split at h
    · exact isReadUnder_of_ofAuthority? h
    · cases h
      exact ⟨rfl, fun host hhost => by cases hhost⟩
    · cases h
      exact ⟨rfl, fun host hhost => by cases hhost⟩

/-- What stands behind the colon of a scheme of HTTP is read from its server on. -/
theorem ofScheme?_of_isHttp {scheme : List Char} (rest : List Char) (h : isHttp scheme = true) :
    isSpecial scheme = true ∧
      ofScheme? scheme rest = ofAuthority? scheme (rest.dropWhile isSlash) := by
  have hspecial : isSpecial scheme = true ∧ scheme ≠ "file".toList := by
    rcases Bool.or_eq_true_iff.mp h with h | h
    · rw [of_decide_eq_true h]
      exact ⟨rfl, by decide⟩
    · rw [of_decide_eq_true h]
      exact ⟨rfl, by decide⟩
  exact ⟨hspecial.1, by rw [ofScheme?.eq_def, if_neg hspecial.2, if_pos hspecial.1]⟩

/-- A scheme ends at the first colon. -/
theorem scheme?_eq_some_iff {text scheme rest : List Char} :
    scheme? text = some (scheme, rest) ↔
      ∃ name, text = name ++ ':' :: rest ∧ (∀ c ∈ name, isSchemeChar c = true) ∧
        (name.head?.map Char.isAlpha).getD false = true ∧ scheme = name.map Text.lowerAscii := by
  rw [scheme?]
  constructor
  · intro h
    have hsplit : text = text.takeWhile isSchemeChar ++
        text.drop (text.takeWhile isSchemeChar).length :=
      (List.prefix_iff_eq_append.mp (List.takeWhile_prefix isSchemeChar)).symm
    split at h
    · rename_i hdrop
      split at h
      · rename_i halpha
        obtain ⟨rfl, rfl⟩ := Prod.mk.inj (Option.some.inj h)
        exact ⟨_, hdrop ▸ hsplit, fun c hc => List.mem_takeWhile_imp hc, halpha, rfl⟩
      · cases h
    · cases h
  · rintro ⟨name, rfl, hname, halpha, rfl⟩
    have hcolon : ¬ isSchemeChar ':' = true := by decide
    have htake : (name ++ ':' :: rest).takeWhile isSchemeChar = name := by
      rw [List.takeWhile_append_of_pos hname, List.takeWhile_cons_of_neg hcolon, List.append_nil]
    rw [htake, List.drop_left]
    simp only [halpha, if_true]

/-! ### The server -/

/-- Host and port of a special scheme, read from the text that names them. -/
def server? (scheme authority : List Char) : Option (Host × Option Nat) := do
  let (hostText, portText) := splitPort false (splitUser authority).2
  let port ← port? scheme portText
  let host ← if hostText.isEmpty then none else Host.special? hostText
  return (host, port)

/-- The text that names user, host and port of a special scheme. -/
def authority (text : List Char) : List Char :=
  text.takeWhile fun c => !endsAuthority true c

/-- Host and port of a special scheme are those that the text for them names. -/
theorem server?_of_ofAuthority? {scheme text : List Char} {u : Url}
    (hspecial : isSpecial scheme = true) (h : ofAuthority? scheme text = some u) :
    ∃ host, u.host = some host ∧ server? scheme (authority text) = some (host, u.port) := by
  simp only [ofAuthority?, hspecial, Option.bind_eq_bind, Option.bind_eq_some_iff, Bool.true_or,
    if_true] at h
  obtain ⟨port, hport, h⟩ := h
  split_ifs at h with hempty
  obtain ⟨host, hhost, h⟩ := Option.bind_eq_some_iff.mp h
  cases h
  refine ⟨host, rfl, ?_⟩
  simp only [server?, authority, hport, hempty, Option.bind_eq_bind, Option.bind_some, hhost,
    Bool.false_eq_true, if_false, Option.pure_def]
  rfl

/-! ### White space at the end of a server -/

variable {c : Char}

theorem ne_of_isOuter {d : Char} (hc : isOuter c = true) (hd : isOuter d = false) : c ≠ d := by
  rintro rfl
  rw [hc] at hd
  cases hd

/-- What stands behind a separator ends as the text does, unless the text ends there. -/
theorem exists_concat_of_append {front left right : List Char} {sep : Char}
    (h : front ++ [c] = left ++ sep :: right) (hne : c ≠ sep) : ∃ back, right = back ++ [c] := by
  rcases List.eq_nil_or_concat' right with rfl | ⟨back, d, rfl⟩
  · exact absurd (List.append_inj_right' h rfl) (by simpa using hne)
  · have hend : front ++ [c] = (left ++ sep :: back) ++ [d] := by
      rw [h, List.append_assoc, List.cons_append]
    obtain ⟨-, hcd⟩ := List.append_inj' hend rfl
    exact ⟨back, by rw [List.singleton_inj.mp hcd]⟩

theorem exists_concat_splitUser (hc : isOuter c = true) (front : List Char) :
    ∃ back, (splitUser (front ++ [c])).2 = back ++ [c] := by
  rw [splitUser]
  split
  · exact ⟨front, rfl⟩
  · rename_i left right hsplit
    obtain ⟨htext, -⟩ := Text.splitLast?_eq_some_iff.mp hsplit
    have hright := exists_concat_of_append htext (ne_of_isOuter hc (by decide))
    split <;> exact hright

/-- Host and port together are the text, and the port begins with its colon. -/
theorem splitPort_eq (text : List Char) : ∀ inside : Bool,
    text = (splitPort inside text).1 ++ (splitPort inside text).2 ∧
      ((splitPort inside text).2 = [] ∨ ∃ ds, (splitPort inside text).2 = ':' :: ds) := by
  induction text with
  | nil => exact fun inside => ⟨rfl, .inl rfl⟩
  | cons d text ih =>
      intro inside
      rw [splitPort]
      split
      · rename_i hcolon
        exact ⟨rfl, .inr ⟨text, by rw [hcolon.1]⟩⟩
      · obtain ⟨htext, hport⟩ := ih (d == '[' || (inside && d != ']'))
        exact ⟨congrArg (d :: ·) htext, hport⟩

theorem port?_eq_none {scheme ds : List Char} (hc : isOuter c = true) (hmem : c ∈ ds) :
    port? scheme (':' :: ds) = none := by
  have hdigit : ¬ c.isDigit = true := by
    have hle : c.toNat ≤ 0x20 := of_decide_eq_true hc
    intro h
    have hlow : 0x30 ≤ c.toNat := (Bool.and_eq_true_iff.mp h).1 |> of_decide_eq_true
    omega
  have hall : ¬ ds.all Char.isDigit = true := fun h => hdigit (List.all_eq_true.mp h c hmem)
  rw [port?, if_neg hall]

theorem special?_eq_none (hc : isOuter c = true) (front : List Char) :
    Host.special? (front ++ [c]) = none := by
  rw [Host.special?]
  split
  · have hlast : ¬ (front ++ [c]).getLast? = some ']' := by
      rw [List.getLast?_concat, Option.some_inj]
      exact ne_of_isOuter hc (by decide)
    rw [Host.bracketed?, if_neg hlast]
  · have hmem : c ∈ front ++ [c] := List.mem_append_right front (List.mem_singleton_self c)
    rw [Domain.parse?_eq_none (of_decide_eq_true hc) hmem]
    rfl

/-- **No server is named by a text that ends in white space.** -/
theorem server?_eq_none (hc : isOuter c = true) (scheme front : List Char) :
    server? scheme (front ++ [c]) = none := by
  obtain ⟨back, hback⟩ := exists_concat_splitUser hc front
  obtain ⟨htext, hport⟩ := splitPort_eq (back ++ [c]) false
  rw [server?, hback]
  rcases hport with hport | ⟨ds, hport⟩
  · rw [hport, List.append_nil] at htext
    simp only [← htext, special?_eq_none hc, ite_self, Option.bind_eq_bind, Option.bind_none,
      Option.bind_fun_none]
  · rw [hport] at htext
    obtain ⟨digits, hdigits⟩ := exists_concat_of_append htext (ne_of_isOuter hc (by decide))
    have hmem : c ∈ ds := by
      rw [hdigits]
      exact List.mem_append_right digits (List.mem_singleton_self c)
    simp only [hport, port?_eq_none hc hmem, Option.bind_eq_bind, Option.bind_none]

/-! ### Cleaning -/

/-- A text without the characters that are dropped wherever they stand. -/
def kept (text : List Char) : List Char :=
  text.filter fun c => !isIgnored c

theorem kept_append (front back : List Char) : kept (front ++ back) = kept front ++ kept back :=
  List.filter_append front back

/-- What is left of a text with a slash in it. -/
theorem clean_slash (front rest : List Char) :
    clean (front ++ '/' :: rest) =
      kept (Text.trimStart isOuter front) ++ '/' :: kept (Text.trimEnd isOuter rest) := by
  have hslash : isOuter '/' = false := by decide
  have htrim : Text.trim isOuter (front ++ '/' :: rest) =
      Text.trimStart isOuter front ++ '/' :: Text.trimEnd isOuter rest := by
    rw [Text.trim, Text.trimStart_append_cons hslash,
      Text.trimEnd_append_cons hslash]
  have hclean : clean (front ++ '/' :: rest) = kept (Text.trim isOuter (front ++ '/' :: rest)) := rfl
  rw [hclean, htrim, kept_append]
  rfl

theorem kept_trimEnd_slashes {rest : List Char} (h : ∀ c ∈ rest, c = '/') :
    kept (Text.trimEnd isOuter rest) = rest := by
  have hrest : Text.trimEnd isOuter rest = rest := by
    rcases List.eq_nil_or_concat' rest with rfl | ⟨front, c, rfl⟩
    · rfl
    · obtain rfl := h c (List.mem_append_right front (List.mem_singleton_self c))
      exact Text.trimEnd_append_cons (by decide) front []
  rw [hrest, kept, List.filter_eq_self]
  intro c hc
  rw [h c hc]
  decide

/-- A text with slashes behind it and with a slash and anything else behind it: what is left of
the latter may have outer characters before the slash, if the former has no slash. -/
theorem exists_core (front more slashes : List Char) (hslashes : ∀ c ∈ slashes, c = '/') :
    ∃ core outer rest, (∀ c ∈ outer, isOuter c = true) ∧ (outer = [] ∨ slashes = []) ∧
      clean (front ++ slashes) = core ++ slashes ∧
      clean (front ++ '/' :: more) = core ++ (outer ++ '/' :: rest) := by
  cases slashes with
  | cons d slashes =>
      obtain ⟨rfl, hrest⟩ := List.forall_mem_cons.mp hslashes
      refine ⟨_, [], _, by simp, .inl rfl, ?_, clean_slash front more⟩
      rw [clean_slash, kept_trimEnd_slashes hrest]
  | nil =>
      obtain ⟨trail, htrail, hfront⟩ :=
        Text.trimEnd_split isOuter (Text.trimStart isOuter front)
      refine ⟨clean front, kept trail, kept (Text.trimEnd isOuter more), ?_, .inr rfl,
        by rw [List.append_nil, List.append_nil], ?_⟩
      · intro c hc
        exact htrail c (List.mem_filter.mp hc).1
      · have hclean : clean front = kept (Text.trimEnd isOuter (Text.trimStart isOuter front)) := rfl
        rw [clean_slash, hclean, ← List.append_assoc, ← kept_append, ← hfront]

/-! ### Behind a slash -/

/-- The text for the server, where it begins with `front`: it is a part of `front`, or it is
`front` with what stands before the next slash. -/
theorem authority_append (front : List Char) :
    (∀ rest, authority (front ++ rest) = authority front) ∨
      ∀ outer rest, (∀ c ∈ outer, isOuter c = true) → (rest = [] ∨ ∃ more, rest = '/' :: more) →
        authority (front ++ (outer ++ rest)) = front ++ outer := by
  by_cases hall : (authority front).length = front.length
  · right
    rw [authority] at hall
    intro outer rest houter hrest
    have hstop : rest.takeWhile (fun c => !endsAuthority true c) = [] := by
      rcases hrest with rfl | ⟨more, rfl⟩
      · rfl
      · exact List.takeWhile_cons_of_neg (by decide)
    have hpass : ∀ c ∈ outer, (!endsAuthority true c) = true := by
      intro c hc
      have hne : ∀ {d : Char}, isOuter d = false → (c == d) = false :=
        fun hd => beq_eq_false_iff_ne.mpr (ne_of_isOuter (houter c hc) hd)
      simp [endsAuthority, hne (d := '/') (by decide), hne (d := '?') (by decide),
        hne (d := '#') (by decide), hne (d := '\\') (by decide)]
    rw [authority, List.takeWhile_append, if_pos hall, List.takeWhile_append_of_pos hpass, hstop,
      List.append_nil]
  · left
    rw [authority] at hall
    intro rest
    rw [authority, List.takeWhile_append, if_neg hall]
    rfl

/-- The text for the server is the same with slashes and with a slash and more behind it, unless
it ends in an outer character then. -/
theorem authority_of_slash {outer slashes : List Char} (front rest : List Char)
    (houter : ∀ c ∈ outer, isOuter c = true) (hslashes : ∀ c ∈ slashes, c = '/')
    (hnone : outer = [] ∨ slashes = []) :
    authority (front ++ (outer ++ '/' :: rest)) = authority (front ++ slashes) ∨
      ∃ back c, isOuter c = true ∧ authority (front ++ (outer ++ '/' :: rest)) = back ++ [c] := by
  rcases authority_append front with hinside | hbehind
  · exact .inl ((hinside _).trans (hinside _).symm)
  · have hshort : authority (front ++ slashes) = front := by
      have hslash : slashes = [] ∨ ∃ more, slashes = '/' :: more := by
        cases slashes with
        | nil => exact .inl rfl
        | cons c more => exact .inr ⟨more, by rw [hslashes c List.mem_cons_self]⟩
      have hnil := hbehind [] slashes (by simp) hslash
      rwa [List.nil_append, List.append_nil] at hnil
    have hlong := hbehind outer ('/' :: rest) houter (.inr ⟨rest, rfl⟩)
    rcases List.eq_nil_or_concat' outer with rfl | ⟨back, c, rfl⟩
    · exact .inl (hlong.trans ((List.append_nil front).trans hshort.symm))
    · refine .inr ⟨front ++ back, c, houter c (List.mem_append_right back ?_), ?_⟩
      · exact List.mem_singleton_self c
      · rw [hlong, List.append_assoc]

/-- A scheme ends before the slashes behind a URL. -/
theorem scheme?_append {core slashes scheme rest : List Char} (hslashes : ∀ c ∈ slashes, c = '/')
    (h : scheme? (core ++ slashes) = some (scheme, rest)) :
    ∃ front, rest = front ++ slashes ∧
      ∀ more, scheme? (core ++ more) = some (scheme, front ++ more) := by
  obtain ⟨name, htext, hname, halpha, hscheme⟩ := scheme?_eq_some_iff.mp h
  have hcolon : ':' ∉ slashes := by
    intro hmem
    exact absurd (hslashes ':' hmem) (by decide)
  rcases List.append_eq_append_iff.mp htext with ⟨left, -, hsplit⟩ | ⟨left, hcore, hsplit⟩
  · exact absurd (by rw [hsplit]; simp) hcolon
  · cases left with
    | nil => exact absurd (by rw [List.nil_append] at hsplit; rw [← hsplit]; simp) hcolon
    | cons d front =>
        rw [List.cons_append, List.cons.injEq] at hsplit
        refine ⟨front, hsplit.2, fun more => scheme?_eq_some_iff.mpr
          ⟨name, ?_, hname, halpha, hscheme⟩⟩
        rw [hcore, ← hsplit.1, List.append_assoc, List.cons_append]

/-- Slashes before the server are passed over, where there is a server. -/
theorem dropWhile_slash_append {front : List Char} (h : ∃ c ∈ front, isSlash c = false)
    (more : List Char) :
    (front ++ more).dropWhile isSlash = front.dropWhile isSlash ++ more := by
  have hne : (front.dropWhile isSlash).isEmpty = false := by
    obtain ⟨c, hc, hslash⟩ := h
    rw [Bool.eq_false_iff]
    intro hempty
    rw [List.dropWhile_eq_nil_iff.mp (List.isEmpty_iff.mp hempty) c hc] at hslash
    cases hslash
  rw [List.dropWhile_append, hne, if_neg Bool.false_ne_true]

/-- A server is more than slashes. -/
theorem exists_server_char {scheme back slashes : List Char} {u : Url}
    (hslashes : ∀ c ∈ slashes, c = '/') (hspecial : isSpecial scheme = true)
    (hu : ofAuthority? scheme ((back ++ slashes).dropWhile isSlash) = some u) :
    ∃ c ∈ back, isSlash c = false := by
  by_contra hall
  have hdrop : (back ++ slashes).dropWhile isSlash = [] := by
    rw [List.dropWhile_eq_nil_iff]
    intro c hc
    rcases List.mem_append.mp hc with hc | hc
    · exact Bool.of_not_eq_false fun h => hall ⟨c, hc, h⟩
    · rw [hslashes c hc]
      decide
  obtain ⟨host, -, hserver⟩ := server?_of_ofAuthority? hspecial hu
  rw [hdrop] at hserver
  cases hserver

/-- **What stands behind a slash does not change the server.** -/
theorem sameOrigin_of_slash {front slashes more : List Char} {u v : Url}
    (hslashes : ∀ c ∈ slashes, c = '/')
    (hu : parse? (String.ofList (front ++ slashes)) = some u) (hhttp : isHttp u.scheme = true)
    (hv : parse? (String.ofList (front ++ '/' :: more)) = some v) : SameOrigin u v := by
  obtain ⟨core, outer, rest, houter, hnone, hclean, hclean'⟩ :=
    exists_core front more slashes hslashes
  simp only [parse?, String.toList_ofList, hclean, hclean', Option.bind_eq_bind,
    Option.bind_eq_some_iff, Prod.exists] at hu hv
  obtain ⟨scheme, after, hscheme, hu⟩ := hu
  obtain ⟨scheme', after', hscheme', hv⟩ := hv
  obtain ⟨back, rfl, hback⟩ := scheme?_append hslashes hscheme
  rw [hback, Option.some_inj, Prod.mk.injEq] at hscheme'
  obtain ⟨rfl, rfl⟩ := hscheme'
  rw [(isReadUnder_of_ofScheme? hu).scheme_eq] at hhttp
  obtain ⟨hspecial, hread⟩ := ofScheme?_of_isHttp (back ++ slashes) hhttp
  rw [hread] at hu
  rw [(ofScheme?_of_isHttp _ hhttp).2] at hv
  have hnonempty := exists_server_char hslashes hspecial hu
  rw [dropWhile_slash_append hnonempty] at hu hv
  obtain ⟨host, hhost, hserver⟩ := server?_of_ofAuthority? hspecial hu
  obtain ⟨host', hhost', hserver'⟩ := server?_of_ofAuthority? hspecial hv
  rcases authority_of_slash (back.dropWhile isSlash) rest houter hslashes hnone with
    hsame | ⟨front, c, hc, hends⟩
  · rw [hsame, hserver, Option.some_inj, Prod.mk.injEq] at hserver'
    have hu' := isReadUnder_of_ofAuthority? hu
    have hv' := isReadUnder_of_ofAuthority? hv
    exact ⟨hv'.scheme_eq.trans hu'.scheme_eq.symm,
      by rw [hhost, hhost', hserver'.1], hserver'.2.symm⟩
  · rw [hends, server?_eq_none hc] at hserver'
    cases hserver'

end CredentialGateway.Url
