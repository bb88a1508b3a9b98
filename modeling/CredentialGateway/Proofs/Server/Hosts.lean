/-
When the host that is told of a service is bare.

The report on services is meant to tell the bare host of every base URL and nothing else
of it.  It does so for every URL that has a host, since no such host holds a mark
(`Url.isBare_host`).  For any other text there is no host to tell, and what is told
instead is cut at slashes alone: it is what stands between the second slash and the third,
or the whole text if there are not two.  A question mark, a number sign or an at sign in
there is told with it, and a text with one slash is told with that slash.
-/
import Mathlib
import CredentialGateway.Proofs.Json.Paths
import CredentialGateway.Proofs.Target.Key
import CredentialGateway.Proofs.Url.Host
import CredentialGateway.Server.Endpoint

namespace CredentialGateway

/-! ### Texts without a host -/

/-- Whether a text is one that no URL with a host can be read from. -/
def Url.IsHostless (text : String) : Prop :=
  ∀ u, Url.parse? text = some u → u.host = none

/-- Whether `piece` stands between the second slash of a text and the third or the end. -/
def Text.IsBehindTwoSlashes (text piece : List Char) : Prop :=
  ∃ first second rest, text = first ++ '/' :: (second ++ '/' :: (piece ++ rest)) ∧
    '/' ∉ first ∧ '/' ∉ second ∧ '/' ∉ piece ∧ (rest = [] ∨ ∃ more, rest = '/' :: more)

theorem Text.getElem?_two_pieces {text piece : List Char} :
    (pieces '/' text)[2]? = some piece ↔ IsBehindTwoSlashes text piece := by
  constructor
  · intro h
    obtain ⟨first, second, more, hpieces⟩ :
        ∃ first second more, pieces '/' text = first :: second :: piece :: more := by
      match hall : pieces '/' text, h with
      | first :: second :: third :: more, h =>
          obtain rfl : third = piece := Option.some.inj h
          exact ⟨first, second, more, rfl⟩
    obtain ⟨hfirst, ⟨-, hnil⟩ | ⟨tail, htext, hmore⟩⟩ := pieces_eq_cons_iff.mp hpieces
    · cases hnil
    obtain ⟨hsecond, ⟨-, hnil⟩ | ⟨back, htail, hmore⟩⟩ := pieces_eq_cons_iff.mp hmore.symm
    · cases hnil
    obtain ⟨hpiece, ⟨hback, -⟩ | ⟨rest, hback, -⟩⟩ := pieces_eq_cons_iff.mp hmore.symm
    · exact ⟨first, second, [], by rw [htext, htail, hback, List.append_nil], hfirst, hsecond,
        hpiece, .inl rfl⟩
    · exact ⟨first, second, '/' :: rest, by rw [htext, htail, hback], hfirst, hsecond, hpiece,
        .inr ⟨rest, rfl⟩⟩
  · rintro ⟨first, second, rest, rfl, hfirst, hsecond, hpiece, hrest⟩
    have hlast : ∃ more, pieces '/' (piece ++ rest) = piece :: more := by
      rcases hrest with rfl | ⟨more, rfl⟩
      · exact ⟨[], by rw [List.append_nil, pieces_of_not_mem hpiece]⟩
      · exact ⟨pieces '/' more, pieces_eq_cons_iff.mpr ⟨hpiece, .inr ⟨more, rfl, rfl⟩⟩⟩
    obtain ⟨more, hlast⟩ := hlast
    rw [pieces_append, pieces_append, pieces_of_not_mem hfirst, pieces_of_not_mem hsecond, hlast]
    rfl

namespace Service

variable {url : String}

/-- Of a URL with a host that host is told. -/
theorem bareHost_of_host {u : Url} {host : Url.Host} (hparse : Url.parse? url = some u)
    (hhost : u.host = some host) : bareHost url = String.ofList host.render := by
  rw [bareHost, hparse, Option.bind_some, Url.hostText?, hhost]
  rfl

theorem bareHost_of_isHostless (h : Url.IsHostless url) :
    bareHost url = (((Text.pieces '/' url.toList)[2]?).map String.ofList).getD url := by
  have hnone : (Url.parse? url).bind Url.hostText? = none := by
    rw [Option.bind_eq_none_iff]
    intro u hu
    rw [Url.hostText?, h u hu]
    rfl
  rw [bareHost, hnone]

/-- **What is told of a text without a host** is bare if the text is, or what stands behind its
second slash. -/
theorem isBare_bareHost_iff (h : Url.IsHostless url) :
    Url.IsBare (bareHost url).toList ↔
      Url.IsBare url.toList ∨
        ∃ piece, Text.IsBehindTwoSlashes url.toList piece ∧ Url.IsBare piece := by
  rw [bareHost_of_isHostless h]
  cases hpiece : (Text.pieces '/' url.toList)[2]? with
  | none =>
      rw [Option.map_none, Option.getD_none]
      refine ⟨Or.inl, fun hbare => hbare.resolve_right ?_⟩
      rintro ⟨piece, hbehind, -⟩
      rw [Text.getElem?_two_pieces.mpr hbehind] at hpiece
      cases hpiece
  | some piece =>
      rw [Option.map_some, Option.getD_some, String.toList_ofList]
      have hbehind := Text.getElem?_two_pieces.mp hpiece
      constructor
      · exact fun hbare => .inr ⟨piece, hbehind, hbare⟩
      · rintro (hbare | ⟨other, hother, hbare⟩)
        · obtain ⟨first, second, rest, htext, -⟩ := hbehind
          rw [htext, Url.isBare_append, Url.isBare_cons] at hbare
          exact absurd hbare.2.1 (by decide)
        · rw [Text.getElem?_two_pieces.mpr hother] at hpiece
          exact Option.some.inj hpiece ▸ hbare

/-- What is told of a service is made from the base URL of the service. -/
theorem exists_url_of_mem_descriptions {get : Lookup} {d : Service} (h : d ∈ descriptions get) :
    ∃ url, get (d.name ++ baseUrlEnd) = some url ∧ d.host = bareHost url := by
  obtain ⟨name, havailable, hdescribe⟩ := List.mem_filterMap.mp h
  obtain ⟨⟨url, key⟩, hcredentials, rfl⟩ := Option.map_eq_some_iff.mp hdescribe
  have hsupported : name ∈ supported := List.mem_of_mem_filter havailable
  exact ⟨url, ((credentials?_of_supported hsupported).mp hcredentials).1, rfl⟩

end Service

namespace Server

/-- The base URLs in the report on services are the hosts of the descriptions. -/
theorem at?_servicesReport (g : Gateway) (i : Nat) :
    (servicesReport g).at? [.member "available_services", .item i, .member "base_url"] =
      (Service.descriptions g.store.get)[i]?.map fun d => .string d.host := by
  have hfield : ∀ d : Service, d.toJson.at? [.member "base_url"] = some (.string d.host) :=
    fun d => rfl
  have hreport : (servicesReport g).at?
      [.member "available_services", .item i, .member "base_url"] =
        (((Service.descriptions g.store.get).map Service.toJson)[i]?).bind
          fun v => v.at? [.member "base_url"] := rfl
  rw [hreport, List.getElem?_map, Option.bind_map]
  cases (Service.descriptions g.store.get)[i]? with
  | none => rfl
  | some d => exact hfield d

/-- **Of every service whose base URL has a host, the report tells that host, and it is bare.**  Of
a service with any other text the report tells something bare exactly if the text itself is bare,
or what stands in it between the second slash and the third or the end. -/
theorem reported_host_is_bare_iff (g : Gateway) :
    (∀ i, (servicesReport g).at? [.member "available_services", .item i, .member "base_url"] =
      (Service.descriptions g.store.get)[i]?.map fun d => .string d.host) ∧
    ∀ d ∈ Service.descriptions g.store.get, ∃ url,
      g.store.get (d.name ++ "_API_BASE_URL") = some url ∧
      (∀ u host, Url.parse? url = some u → u.host = some host →
        d.host.toList = host.render ∧ Url.IsBare d.host.toList) ∧
      (Url.IsHostless url → (Url.IsBare d.host.toList ↔ Url.IsBare url.toList ∨
        ∃ piece, Text.IsBehindTwoSlashes url.toList piece ∧ Url.IsBare piece)) := by
  refine ⟨at?_servicesReport g, fun d hd => ?_⟩
  obtain ⟨url, hurl, hhost⟩ := Service.exists_url_of_mem_descriptions hd
  refine ⟨url, hurl, ?_, ?_⟩
  · intro u host hparse hu
    rw [hhost, Service.bareHost_of_host hparse hu, String.toList_ofList]
    exact ⟨rfl, Url.isBare_host hparse hu⟩
  · intro hhostless
    rw [hhost]
    exact Service.isBare_bareHost_iff hhostless

/-- A URL with all its parts, of which the host is told, and one that cannot be read before its
references are replaced. -/
theorem hosts_of_two_services_are_told :
    let store : Store := ⟨[("OPENAI_API_BASE_URL", "https://user:pw@API.example:8443/v1?key=k#f"),
      ("OPENAI_API_KEY", "sk-1"), ("DEEPSEEK_API_BASE_URL", "https://${HOST}:${PORT}/v1?key=k"),
      ("DEEPSEEK_API_KEY", "sk-2")], "s3cret", by decide, by decide, by decide⟩
    let g : Gateway := ⟨store, .default, none, ⟨[], "", 3, 40⟩⟩
    let openai : Service := ⟨"OPENAI", "api.example", none⟩
    let deepseek : Service := ⟨"DEEPSEEK", "${HOST}:${PORT}", none⟩
    openai ∈ Service.descriptions g.store.get ∧ deepseek ∈ Service.descriptions g.store.get ∧
      Url.IsHostless "https://${HOST}:${PORT}/v1?key=k" ∧
      Url.IsBare openai.host.toList ∧ Url.IsBare deepseek.host.toList := by
  intro store g openai deepseek
  have hdescriptions : Service.descriptions g.store.get = [openai, deepseek] := by decide +kernel
  have hopenai : openai ∈ Service.descriptions g.store.get := by simp [hdescriptions]
  have hdeepseek : deepseek ∈ Service.descriptions g.store.get := by simp [hdescriptions]
  have hhostless : Url.IsHostless "https://${HOST}:${PORT}/v1?key=k" := by
    have hnone : Url.parse? "https://${HOST}:${PORT}/v1?key=k" = none := by decide +kernel
    intro u hu
    rw [hnone] at hu
    cases hu
  obtain ⟨url, hurl, hhost, -⟩ := (reported_host_is_bare_iff g).2 openai hopenai
  obtain ⟨text, htext, -, hbare⟩ := (reported_host_is_bare_iff g).2 deepseek hdeepseek
  have hurl' : g.store.get (openai.name ++ "_API_BASE_URL") =
      some "https://user:pw@API.example:8443/v1?key=k#f" := by decide +kernel
  have htext' : g.store.get (deepseek.name ++ "_API_BASE_URL") =
      some "https://${HOST}:${PORT}/v1?key=k" := by decide +kernel
  obtain rfl := Option.some.inj (hurl.symm.trans hurl')
  obtain rfl := Option.some.inj (htext.symm.trans htext')
  have hparse : Url.parse? "https://user:pw@API.example:8443/v1?key=k#f" =
      some ⟨"https".toList, "user".toList, "pw".toList, some (.domain "api.example".toList),
        some 8443, "/v1".toList, some "key=k".toList, some "f".toList⟩ := by decide +kernel
  have hpiece : Text.IsBehindTwoSlashes "https://${HOST}:${PORT}/v1?key=k".toList
      "${HOST}:${PORT}".toList := Text.getElem?_two_pieces.mp (by decide +kernel)
  exact ⟨hopenai, hdeepseek, hhostless, (hhost _ _ hparse rfl).2,
    (hbare hhostless).mpr (.inr ⟨_, hpiece, by decide⟩)⟩

/-- A base URL whose slashes were forgotten is told with its user, its path and its query. -/
theorem user_path_query_are_told :
    let store : Store := ⟨[("OPENAI_API_BASE_URL", "user:pw@api.example/v1?key=k"),
      ("OPENAI_API_KEY", "sk-1")], "s3cret", by decide, by decide, by decide⟩
    let g : Gateway := ⟨store, .default, none, ⟨[], "", 3, 40⟩⟩
    (⟨"OPENAI", "user:pw@api.example/v1?key=k", none⟩ : Service) ∈
        Service.descriptions g.store.get ∧
      (servicesReport g).at? [.member "available_services", .item 0, .member "base_url"] =
        some (.string "user:pw@api.example/v1?key=k") ∧
      ¬ Url.IsBare "user:pw@api.example/v1?key=k".toList := by
  intro store g
  have hdescriptions : Service.descriptions g.store.get =
      [⟨"OPENAI", "user:pw@api.example/v1?key=k", none⟩] := by decide +kernel
  refine ⟨?_, ?_, by decide⟩
  · rw [hdescriptions]
    exact List.mem_singleton_self _
  · rw [at?_servicesReport, hdescriptions]
    rfl

end Server

end CredentialGateway
