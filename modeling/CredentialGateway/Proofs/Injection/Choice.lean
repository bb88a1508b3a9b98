/-
The key of a URL to which several backends' URLs lead.

The URLs that a URL is or continues with a slash all stand at its start, so they are
nested and two of one length are the same.  The look-up takes the first pair whose URL
is among them, in the order in which the pairs are listed.  That is the pair with the
longest such URL unless a pair with a shorter one is listed before it.  A configured URL
counts as it stands, with the slashes at its end.
-/
import Mathlib
import CredentialGateway.Proofs.Injection.Special

namespace CredentialGateway.Injection

variable {get : Lookup} {url key : String} {pair : String × String}

/-! ### URLs that lead to a URL -/

theorem Reaches.isPrefix {special : String} (h : Reaches get url pair special) :
    special.toList <+: url.toList := by
  rcases h.within with rfl | ⟨rest, rfl⟩
  · exact List.prefix_refl _
  · refine ⟨("/" ++ rest).toList, ?_⟩
    simp

/-- The URLs that lead to a URL are known by their length. -/
theorem Reaches.eq_of_length {other : String × String} {special shorter : String}
    (h : Reaches get url pair special) (hother : Reaches get url other shorter)
    (hlength : shorter.length = special.length) : shorter = special := by
  rw [← String.length_toList, ← String.length_toList] at hlength
  have hnested := List.prefix_of_prefix_length_le hother.isPrefix h.isPrefix (Nat.le_of_eq hlength)
  exact String.toList_inj.mp (hnested.eq_of_length hlength)

/-! ### The pair that is chosen -/

/-- The key of a URL is that of the first pair that has one and whose URL leads there. -/
theorem keyFor?_eq_some_iff :
    keyFor? get url = some key ↔
      ∃ front pair back, pairs = front ++ pair :: back ∧
        ((∃ special, Reaches get url pair special) ∧ get pair.2 = some key) ∧
        ∀ q ∈ front, keyOfPair? get url q = none := by
  rw [keyFor?, List.findSome?_eq_some_iff]
  simp only [keyOfPair?_eq_some_iff]

/-- A pair whose URL does not lead to a URL gives it no key. -/
theorem keyOfPair?_eq_none (h : ∀ special, ¬ Reaches get url pair special) :
    keyOfPair? get url pair = none := by
  cases hkey : keyOfPair? get url pair with
  | none => rfl
  | some key =>
      obtain ⟨⟨special, hreaches⟩, -⟩ := keyOfPair?_eq_some_iff.mp hkey
      exact absurd hreaches (h special)

/-- The key of a URL is that of a pair whose URL leads there. -/
theorem exists_reaches_of_keyFor? (h : keyFor? get url = some key) :
    ∃ pair ∈ pairs, (∃ special, Reaches get url pair special) ∧ get pair.2 = some key := by
  obtain ⟨front, pair, back, hpairs, hpair, -⟩ := keyFor?_eq_some_iff.mp h
  exact ⟨pair, hpairs ▸ List.mem_append_right front List.mem_cons_self, hpair⟩

/-- A URL that the URL of a pair with a key leads to has a key. -/
theorem isSome_keyFor?_of_reaches {special : String} (hpair : pair ∈ pairs)
    (hreaches : Reaches get url pair special) (hkey : get pair.2 = some key) :
    (keyFor? get url).isSome = true := by
  have hgives : keyOfPair? get url pair = some key :=
    keyOfPair?_eq_some_iff.mpr ⟨⟨special, hreaches⟩, hkey⟩
  rw [keyFor?, List.findSome?_isSome_iff]
  exact ⟨pair, hpair, by rw [hgives]; rfl⟩

/-- A pair whose URL is the longest of those that lead to a URL, and that is listed before the other
pairs with this URL. -/
structure IsBest (get : Lookup) (url : String) (front : List (String × String))
    (pair : String × String) (special : String) : Prop where
  reaches : Reaches get url pair special
  longest : ∀ q ∈ pairs, ∀ other, Reaches get url q other → other.length ≤ special.length
  first : ∀ q ∈ front, ¬ Reaches get url q special

/-- Where a pair reaches there is a best one. -/
theorem exists_isBest (h : ∃ pair ∈ pairs, ∃ special, Reaches get url pair special) :
    ∃ front pair back special,
      pairs = front ++ pair :: back ∧ IsBest get url front pair special := by
  classical
  obtain ⟨pair, hpair, hreached⟩ := h
  obtain ⟨longest, hlongest, hmax⟩ := Finset.exists_max_image
    (pairs.toFinset.filter fun q => ∃ special, Reaches get url q special)
    (fun q => ((get q.1).getD "").length)
    ⟨pair, Finset.mem_filter.mpr ⟨List.mem_toFinset.mpr hpair, hreached⟩⟩
  obtain ⟨hmem, special, hspecial⟩ := Finset.mem_filter.mp hlongest
  have hfound : (pairs.find? fun q => decide (Reaches get url q special)).isSome = true :=
    List.find?_isSome.mpr ⟨longest, List.mem_toFinset.mp hmem, decide_eq_true hspecial⟩
  obtain ⟨best, hbest⟩ := Option.isSome_iff_exists.mp hfound
  obtain ⟨hreaches, front, back, hpairs, hfront⟩ := List.find?_eq_some_iff_append.mp hbest
  refine ⟨front, best, back, special, hpairs, of_decide_eq_true hreaches, ?_, ?_⟩
  · intro q hq other hother
    have hle := hmax q (Finset.mem_filter.mpr ⟨List.mem_toFinset.mpr hq, other, hother⟩)
    simpa [hother.configured, hspecial.configured] using hle
  · intro q hq
    simpa using hfront q hq

/-- **The best pair gives its key**, unless a pair before it has a shorter URL that leads there. -/
theorem keyFor?_of_isBest {front back : List (String × String)} {special : String}
    (hpairs : pairs = front ++ pair :: back) (hbest : IsBest get url front pair special)
    (hkey : get pair.2 = some key)
    (hshorter : ∀ q ∈ front, ∀ other, Reaches get url q other → ¬ other.length < special.length) :
    keyFor? get url = some key := by
  have hfront : ∀ q ∈ front, ∀ other, ¬ Reaches get url q other := by
    intro q hq other hother
    have hmem : q ∈ pairs := hpairs ▸ List.mem_append_left _ hq
    -- The URL is neither longer nor shorter than the best one, so it is the same.
    have hlength : other.length = special.length :=
      Nat.le_antisymm (hbest.longest q hmem other hother)
        (Nat.le_of_not_lt (hshorter q hq other hother))
    rw [hbest.reaches.eq_of_length hother hlength] at hother
    exact hbest.first q hq hother
  exact keyFor?_eq_some_iff.mpr ⟨front, pair, back, hpairs, ⟨⟨special, hbest.reaches⟩, hkey⟩,
    fun q hq => keyOfPair?_eq_none (hfront q hq)⟩

/-- **The key for a URL.**  Let each backend that has a URL have a key.  There is a key for a URL
exactly if the URL is that of a backend, or continues it with a slash, and then it is the key of such
a backend.  One of them is the best: it has the longest such URL, and is listed first if several have
it.  The best one gives its key unless a pair listed before has a shorter such URL. -/
theorem special_key_of_longest_url (s : Store) (url : String)
    (hkeys : ∀ pair ∈ pairs, ∀ special, s.get pair.1 = some special → special ≠ "" →
      (s.get pair.2).isSome = true) :
    ((keyFor? s.get url).isSome = true ↔
      ∃ pair ∈ pairs, ∃ special, Reaches s.get url pair special) ∧
    (∀ key, keyFor? s.get url = some key →
      ∃ pair ∈ pairs, (∃ special, Reaches s.get url pair special) ∧ s.get pair.2 = some key) ∧
    ((keyFor? s.get url).isSome = true → ∃ front pair back special,
      pairs = front ++ pair :: back ∧ IsBest s.get url front pair special) ∧
    (∀ front pair back special, pairs = front ++ pair :: back →
      IsBest s.get url front pair special →
      (∀ q ∈ front, ∀ other, Reaches s.get url q other → ¬ other.length < special.length) →
      keyFor? s.get url = s.get pair.2) := by
  have hgiven : ∀ pair ∈ pairs, ∀ special, Reaches s.get url pair special →
      ∃ key, s.get pair.2 = some key := fun pair hpair special hreaches =>
    Option.isSome_iff_exists.mp (hkeys pair hpair special hreaches.configured hreaches.nonempty)
  have hreached : (keyFor? s.get url).isSome = true ↔
      ∃ pair ∈ pairs, ∃ special, Reaches s.get url pair special := by
    constructor
    · intro hsome
      obtain ⟨key, hkey⟩ := Option.isSome_iff_exists.mp hsome
      obtain ⟨pair, hpair, hreaches, -⟩ := exists_reaches_of_keyFor? hkey
      exact ⟨pair, hpair, hreaches⟩
    · rintro ⟨pair, hpair, special, hreaches⟩
      obtain ⟨key, hkey⟩ := hgiven pair hpair special hreaches
      exact isSome_keyFor?_of_reaches hpair hreaches hkey
  refine ⟨hreached, fun key hkey => exists_reaches_of_keyFor? hkey,
    fun hsome => exists_isBest (hreached.mp hsome), ?_⟩
  intro front pair back special hpairs hbest hshorter
  have hpair : pair ∈ pairs := hpairs ▸ List.mem_append_right front List.mem_cons_self
  obtain ⟨key, hkey⟩ := hgiven pair hpair special hbest.reaches
  rw [hkey]
  exact keyFor?_of_isBest hpairs hbest hkey hshorter

/-- Three backends on one host, listed from the longest URL to the shortest, and a request to the
second one. -/
theorem middle_backend_gets_its_key :
    let s : Store := ⟨[("BING_SUBSCRIPTION_ENDPOINT", "https://ai.example"),
      ("BING_SUBSCRIPTION_KEY", "bing-key"),
      ("VOICE_UNDERSTANDING_API_BASE_URL", "https://ai.example/v1"),
      ("VOICE_UNDERSTANDING_API_KEY", "voice-key"),
      ("TEXT_TO_IMAGE_API_BASE_URL", "https://ai.example/v1/image"),
      ("TEXT_TO_IMAGE_ACCESS_KEY", "img-key")], "s3cret", by decide, by decide, by decide⟩
    keyFor? s.get "https://ai.example/v1/images" = some "voice-key" := by
  intro s
  have hkeys : ∀ pair ∈ pairs, (s.get pair.2).isSome = true := by decide +kernel
  have hlengths : ∀ q ∈ pairs, (s.get q.1).all (fun other =>
      !continues "https://ai.example/v1/images" other ||
        decide (other.length ≤ "https://ai.example/v1".length)) = true := by decide +kernel
  have hlongest : ∀ q ∈ pairs, ∀ other, Reaches s.get "https://ai.example/v1/images" q other →
      other.length ≤ "https://ai.example/v1".length := by
    intro q hq other hother
    have hall := hlengths q hq
    rw [hother.configured, Option.all_some, continues_iff.mpr hother.within] at hall
    simpa using hall
  -- The image backend stands before it, but its URL ends inside a segment.
  have hfront : ∀ q ∈ [("TEXT_TO_IMAGE_API_BASE_URL", "TEXT_TO_IMAGE_ACCESS_KEY")], ∀ other,
      ¬ Reaches s.get "https://ai.example/v1/images" q other := by
    intro q hq other hother
    obtain rfl := List.mem_singleton.mp hq
    have hurl : s.get "TEXT_TO_IMAGE_API_BASE_URL" = some "https://ai.example/v1/image" := by
      decide +kernel
    have hsame := Option.some_inj.mp (hurl.symm.trans hother.configured)
    have helse : continues "https://ai.example/v1/images" "https://ai.example/v1/image" = false := by
      decide +kernel
    rw [hsame, continues_iff.mpr hother.within] at helse
    cases helse
  have hbest : IsBest s.get "https://ai.example/v1/images"
      [("TEXT_TO_IMAGE_API_BASE_URL", "TEXT_TO_IMAGE_ACCESS_KEY")]
      ("VOICE_UNDERSTANDING_API_BASE_URL", "VOICE_UNDERSTANDING_API_KEY")
      "https://ai.example/v1" :=
    ⟨⟨by decide +kernel, by decide, .inr ⟨"images", by decide⟩⟩, hlongest,
      fun q hq => hfront q hq _⟩
  obtain ⟨-, -, -, hchoice⟩ := special_key_of_longest_url s "https://ai.example/v1/images"
    fun pair hpair _ _ _ => hkeys pair hpair
  rw [hchoice _ _ _ _ rfl hbest fun q hq other hother => absurd hother (hfront q hq other)]
  decide +kernel

/-- **The order of the pairs and the slashes at the end count.**  Each backend has a URL and a key.
The longer URL of two does not get its own key when the shorter one is listed first, and what
continues a URL behind the slash at its end gets none. -/
theorem shorter_url_is_listed_first :
    let s : Store := ⟨[("TEXT_TO_IMAGE_API_BASE_URL", "https://ai.example"),
      ("TEXT_TO_IMAGE_ACCESS_KEY", "img-key"),
      ("VOICE_UNDERSTANDING_API_BASE_URL", "https://ai.example/voice"),
      ("VOICE_UNDERSTANDING_API_KEY", "voice-key"),
      ("BING_SUBSCRIPTION_ENDPOINT", "https://bing.example/search/"),
      ("BING_SUBSCRIPTION_KEY", "bing-key")], "s3cret", by decide, by decide, by decide⟩
    (∀ pair ∈ pairs, (s.get pair.1).isSome = true ∧ (s.get pair.2).isSome = true) ∧
      keyFor? s.get "https://ai.example/voice" = some "img-key" ∧
      keyFor? s.get ("https://bing.example/search" ++ "/" ++ "v7") = none := by
  intro s
  exact ⟨by decide +kernel, by decide +kernel, by decide +kernel⟩

end CredentialGateway.Injection
