/-
A backend's key stays on the origin it was configured for.

The URL that a request is sent to is made of texts: the base URL without the slashes at its
end, a slash, the path and the query.  Whether a URL gets a key is decided by comparing
texts, too.  In both cases one text continues another behind a slash, and so both have the
same scheme, host and port when they are read as URLs.
-/
import Mathlib
import CredentialGateway.Proofs.Injection.Special
import CredentialGateway.Proofs.Url.Origin

namespace CredentialGateway.Target

open Injection Url

/-- The URL of a target is its base URL with a slash, the path and the query in the place of the
slashes at its end. -/
theorem exists_url_eq (t : Target) (query : Option String) :
    ∃ front slashes mark, (∀ c ∈ slashes, c = '/') ∧ (mark = [] ∨ ∃ more, mark = '?' :: more) ∧
      t.baseUrl = String.ofList (front ++ slashes) ∧
      t.url query =
        String.ofList (front ++ '/' :: (Text.trimStart isSlash t.path.toList ++ mark)) := by
  obtain ⟨slashes, hslashes, hbase⟩ := Text.trimEnd_split isSlash t.baseUrl.toList
  obtain ⟨mark, hmark, hurl⟩ : ∃ mark, (mark = [] ∨ ∃ more, mark = '?' :: more) ∧
      t.url query = String.ofList (Text.trimEnd isSlash t.baseUrl.toList ++
        '/' :: Text.trimStart isSlash t.path.toList ++ mark) := by
    refine ⟨_, ?_, rfl⟩
    split
    · split
      · exact .inl rfl
      · exact .inr ⟨_, rfl⟩
    · exact .inl rfl
  refine ⟨Text.trimEnd isSlash t.baseUrl.toList, slashes, mark,
    fun c hc => isSlash_eq_true_iff.mp (hslashes c hc), hmark, ?_, ?_⟩
  · rw [← hbase, String.ofList_toList]
  · rw [hurl, List.append_assoc, List.cons_append]

/-- A URL that continues another has its origin. -/
theorem sameOrigin_of_continues {url special : String} {u v : Url}
    (h : continues url special = true) (hu : Url.parse? special = some u)
    (hhttp : isHttp u.scheme = true) (hv : Url.parse? url = some v) : SameOrigin u v := by
  rcases continues_iff.mp h with rfl | ⟨rest, rfl⟩
  · rw [hu, Option.some_inj] at hv
    rw [hv]
    exact ⟨rfl, rfl, rfl⟩
  · have hnone : ∀ c ∈ ([] : List Char), c = '/' := by simp
    have hspecial : special = String.ofList (special.toList ++ []) := by
      rw [List.append_nil, String.ofList_toList]
    have hlonger : special ++ "/" ++ rest =
        String.ofList (special.toList ++ '/' :: rest.toList) := by
      rw [← String.toList_inj]
      simp
    rw [hspecial] at hu
    rw [hlonger] at hv
    exact sameOrigin_of_slash hnone hu hhttp hv

/-- A URL whose base URL continues another, up to slashes at the ends, is that other one with a
slash and more in the place of the slashes at its end. -/
theorem exists_url_eq_of_continues {t : Target} {special : String} (query : Option String)
    (h : continues t.baseUrl special = true) :
    ∃ front slashes more, (∀ c ∈ slashes, c = '/') ∧
      special = String.ofList (front ++ slashes) ∧
      t.url query = String.ofList (front ++ '/' :: more) := by
  obtain ⟨front, slashes, mark, hslashes, -, hbase, hurl⟩ := exists_url_eq t query
  generalize Text.trimStart isSlash t.path.toList ++ mark = more at hurl
  have hlist : front ++ slashes = t.baseUrl.toList := by rw [hbase, String.toList_ofList]
  obtain ⟨tail, htail, htext⟩ : ∃ tail, (tail = [] ∨ ∃ rest, tail = '/' :: rest) ∧
      front ++ slashes = special.toList ++ tail := by
    rcases continues_iff.mp h with hsame | ⟨rest, hmore⟩
    · exact ⟨[], .inl rfl, by rw [hlist, hsame, List.append_nil]⟩
    · exact ⟨'/' :: rest.toList, .inr ⟨_, rfl⟩, by rw [hlist, hmore]; simp⟩
  rcases List.append_eq_append_iff.mp htext with ⟨back, hspecial, hback⟩ | ⟨back, hfront, hback⟩
  · exact ⟨front, back, more, fun c hc => hslashes c (hback ▸ List.mem_append_left tail hc),
      by rw [← hspecial, String.ofList_toList], hurl⟩
  · have hwhole : special = String.ofList (special.toList ++ []) := by
      rw [List.append_nil, String.ofList_toList]
    cases back with
    | nil =>
        rw [List.append_nil] at hfront
        exact ⟨special.toList, [], more, by simp, hwhole, by rw [hurl, hfront]⟩
    | cons d back =>
        obtain rfl : d = '/' := by
          rcases htail with rfl | ⟨rest, rfl⟩
          · cases hback
          · exact (List.cons.inj hback).1.symm
        exact ⟨special.toList, [], back ++ '/' :: more, by simp, hwhole,
          by rw [hurl, hfront, List.append_assoc, List.cons_append]⟩

/-- **A target is reached on the origin of its base URL**, and of any URL that this continues. -/
theorem sameOrigin_url {t : Target} {special : String} {query : Option String} {u v : Url}
    (h : continues t.baseUrl special = true) (hu : Url.parse? special = some u)
    (hhttp : isHttp u.scheme = true) (hv : Url.parse? (t.url query) = some v) :
    SameOrigin u v := by
  obtain ⟨front, slashes, more, hslashes, hspecial, hurl⟩ := exists_url_eq_of_continues query h
  rw [hspecial] at hu
  rw [hurl] at hv
  exact sameOrigin_of_slash hslashes hu hhttp hv

/-- The pair that gives a key has that key, and its URL is continued. -/
theorem exists_of_keyOfPair? {get : Lookup} {url key : String} {pair : String × String}
    (h : keyOfPair? get url pair = some key) :
    ∃ special, get pair.1 = some special ∧ get pair.2 = some key ∧
      continues url special = true := by
  obtain ⟨⟨special, hreaches⟩, hkey⟩ := keyOfPair?_eq_some_iff.mp h
  exact ⟨special, hreaches.configured, hkey, continues_iff.mpr hreaches.within⟩

/-- **Keys stay on their origin.**  Whatever path and query a request has, a target whose base URL
is one of HTTP is reached on the origin of its base URL, if what is put together is a URL at all.
A URL that is given the key of a pair, whoever named it, has the origin of the URL that is
configured for the pair, if both are URLs and the latter is one of HTTP; and so has, whatever its
path and query, the request that is sent there with the key in it. -/
theorem keys_stay_on_origin (s : Store) :
    (∀ (t : Target) (query : Option String) (u v : Url), Url.parse? t.baseUrl = some u →
      isHttp u.scheme = true → Url.parse? (t.url query) = some v → SameOrigin u v) ∧
    ∀ url key, keyFor? s.get url = some key → ∃ pair ∈ pairs, ∃ special,
      keyOfPair? s.get url pair = some key ∧ s.get pair.1 = some special ∧
      s.get pair.2 = some key ∧
      ∀ u, Url.parse? special = some u → isHttp u.scheme = true →
        (∀ v, Url.parse? url = some v → SameOrigin u v) ∧
        ∀ (t : Target) (query : Option String) (v : Url), t.baseUrl = url →
          Url.parse? (t.url query) = some v → SameOrigin u v := by
  constructor
  · intro t query u v
    exact sameOrigin_url (continues_iff.mpr (.inl rfl))
  · intro url key hkey
    obtain ⟨pair, hpair, hgives⟩ := List.exists_of_findSome?_eq_some hkey
    obtain ⟨special, hurl, hpairKey, hcontinues⟩ := exists_of_keyOfPair? hgives
    refine ⟨pair, hpair, special, hgives, hurl, hpairKey, fun u hu hhttp => ⟨fun v => ?_, ?_⟩⟩
    · exact sameOrigin_of_continues hcontinues hu hhttp
    · rintro t query v rfl
      exact sameOrigin_url hcontinues hu hhttp

/-- A caller names a URL below that of a backend, and a path that tries to leave it. -/
theorem named_target_stays_on_origin :
    let s : Store := ⟨[("BING_SUBSCRIPTION_ENDPOINT", "https://Search.example:8443"),
      ("BING_SUBSCRIPTION_KEY", "bing-key")], "s3cret", by decide, by decide, by decide⟩
    let t : Target := ⟨"https://Search.example:8443/v7//", none, "..//@evil.example:80",
      .targetParam⟩
    let on (path : String) (query : Option String) : Url :=
      ⟨"https".toList, [], [], some (.domain "search.example".toList), some 8443, path.toList,
        query.map String.toList, none⟩
    Target.resolve s.get "/..//@evil.example:80/"
        (some "target=https://Search.example:8443/v7//") = .ok t ∧
      keyFor? s.get t.baseUrl = some "bing-key" ∧
      Url.parse? (t.url (some "a=b")) = some (on "//@evil.example:80" (some "a=b")) ∧
      SameOrigin (on "/v7//" none) (on "//@evil.example:80" (some "a=b")) ∧
      SameOrigin (on "/" none) (on "/v7//" none) ∧
      SameOrigin (on "/" none) (on "//@evil.example:80" (some "a=b")) := by
  intro s t on
  have hresolve : Target.resolve s.get "/..//@evil.example:80/"
      (some "target=https://Search.example:8443/v7//") = .ok t := by decide +kernel
  have hkey : keyFor? s.get t.baseUrl = some "bing-key" := by decide +kernel
  have hspecial : Url.parse? "https://Search.example:8443" = some (on "/" none) := by
    decide +kernel
  have hbase : Url.parse? t.baseUrl = some (on "/v7//" none) := by decide +kernel
  have hurl : Url.parse? (t.url (some "a=b")) = some (on "//@evil.example:80" (some "a=b")) := by
    decide +kernel
  obtain ⟨hreached, hgiven⟩ := keys_stay_on_origin s
  obtain ⟨pair, hpair, special, hgives, hconfigured, -, hsame⟩ := hgiven _ _ hkey
  have hhttp : isHttp "https".toList = true := by decide
  refine ⟨hresolve, hkey, hurl, hreached t _ _ _ hbase hhttp hurl, ?_⟩
  have honly : ∀ p ∈ pairs, s.get p.1 = none ∨ s.get p.1 = some "https://Search.example:8443" := by
    decide +kernel
  rcases honly pair hpair with hnone | hsome
  · rw [hconfigured] at hnone
    cases hnone
  · rw [hconfigured, Option.some_inj] at hsome
    rw [hsome] at hsame
    obtain ⟨hnamed, hsent⟩ := hsame _ hspecial hhttp
    exact ⟨hnamed _ hbase, hsent t _ _ rfl hurl⟩

end CredentialGateway.Target
