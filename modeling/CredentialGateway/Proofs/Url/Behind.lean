/-
A URL with a path put behind it.

Behind the server of a URL come its path, its query and its fragment, each up to a
character of its own.  If the URL has no query and no fragment, then what is put behind it,
with a slash between, continues its path: the segments that the URL has entered are there,
and the walk goes on from them.  Slashes at the end of the URL do not count.

White space at the end of a URL does not count either, but with more behind it stands
inside the longer text and belongs to a segment there.  So nothing is said of URLs that end
in white space; tabs and line ends are dropped wherever they stand and do no harm.
-/
import Mathlib
import CredentialGateway.Proofs.Url.Origin
import CredentialGateway.Proofs.Url.Walk

namespace CredentialGateway.Url

variable {scheme server front rest slashes path mark : List Char} {u : Url}

/-! ### Behind the server -/

theorem authority_eq (hserver : ∀ c ∈ server, endsAuthority true c = false)
    (hrest : ∀ c, rest.head? = some c → endsAuthority true c = true) :
    authority (server ++ rest) = server := by
  have hpass : ∀ c ∈ server, (!endsAuthority true c) = true := by
    intro c hc
    rw [hserver c hc]
    rfl
  have hstop : rest.takeWhile (fun c => !endsAuthority true c) = [] := by
    cases rest with
    | nil => rfl
    | cons c rest => exact List.takeWhile_cons_of_neg (by simp [hrest c rfl])
  rw [authority, List.takeWhile_append_of_pos hpass, hstop, List.append_nil]

/-- **What stands behind the server is path, query and fragment** and nothing else. -/
theorem ofAuthority?_eq (hspecial : isSpecial scheme = true)
    (hserver : ∀ c ∈ server, endsAuthority true c = false)
    (hrest : ∀ c, rest.head? = some c → endsAuthority true c = true) :
    ofAuthority? scheme (server ++ rest) = (server? scheme server).map fun found =>
      assemble scheme ((splitUser server).1.getD ([], [])) (some found.1) found.2
        (hostPath true (tail rest).path) (tail rest) := by
  have hauthority := authority_eq hserver hrest
  rw [authority] at hauthority
  simp only [ofAuthority?, hspecial, hauthority, List.drop_left, server?, Option.bind_eq_bind,
    Bool.true_or, if_true, Option.pure_def]
  cases port? scheme (splitPort false (splitUser server).2).2 with
  | none => rfl
  | some port =>
      simp only [Option.bind_some]
      split
      · rfl
      · cases Host.special? (splitPort false (splitUser server).2).1 <;> rfl

/-! ### Paths, queries and fragments -/

/-- Whether a character may stand in a path, as far as the marks of the other parts go. -/
def isPlain (c : Char) : Bool :=
  c != '?' && c != '#'

theorem isPlain_eq_true_iff {c : Char} : isPlain c = true ↔ c ≠ '?' ∧ c ≠ '#' := by
  simp [isPlain]

theorem takeWhile_isPlain_eq_self {text : List Char} (hquery : '?' ∉ text)
    (hfragment : '#' ∉ text) : text.takeWhile isPlain = text :=
  List.takeWhile_eq_self_iff.mpr fun _ hc =>
    isPlain_eq_true_iff.mpr ⟨fun h => hquery (h ▸ hc), fun h => hfragment (h ▸ hc)⟩

theorem takeWhile_isPlain_mark {c : Char} (hc : isPlain c = false) (left right : List Char) :
    (left ++ c :: right).takeWhile isPlain = left.takeWhile isPlain := by
  rw [List.takeWhile_append, List.takeWhile_cons_of_neg (by simp [hc])]
  split
  · rename_i hall
    rw [List.append_nil, (List.takeWhile_prefix isPlain).eq_of_length hall]
  · rfl

theorem tail_path_of_not_mem {text : List Char} (h : '#' ∉ text) :
    (tail text).path = text.takeWhile isPlain := by
  have hmark : Text.splitFirst? '#' text = none := Text.splitFirst?_eq_none_iff.mpr h
  cases hsplit : Text.splitFirst? '?' text with
  | none =>
      simp only [tail, hmark, hsplit]
      exact (takeWhile_isPlain_eq_self (Text.splitFirst?_eq_none_iff.mp hsplit) h).symm
  | some cut =>
      simp only [tail, hmark, hsplit]
      obtain ⟨rfl, hquery⟩ := Text.splitFirst?_eq_some_iff.mp hsplit
      rw [takeWhile_isPlain_mark rfl, takeWhile_isPlain_eq_self hquery]
      exact fun hmem => h (List.mem_append_left _ hmem)

/-- The path of a text ends at the first mark. -/
theorem tail_path (text : List Char) : (tail text).path = text.takeWhile isPlain := by
  cases hsplit : Text.splitFirst? '#' text with
  | none => exact tail_path_of_not_mem (Text.splitFirst?_eq_none_iff.mp hsplit)
  | some cut =>
      obtain ⟨front, fragment⟩ := cut
      obtain ⟨rfl, hfragment⟩ := Text.splitFirst?_eq_some_iff.mp hsplit
      have hnone : Text.splitFirst? '#' front = none := Text.splitFirst?_eq_none_iff.mpr hfragment
      have hfront : (tail (front ++ '#' :: fragment)).path = (tail front).path := by
        simp only [tail, hsplit, hnone]
        cases Text.splitFirst? '?' front <;> rfl
      rw [hfront, tail_path_of_not_mem hfragment, takeWhile_isPlain_mark rfl]

/-- A text without a query and a fragment is all path. -/
theorem isPlain_of_tail (hquery : (tail rest).query = none)
    (hfragment : (tail rest).fragment = none) : ∀ c ∈ rest, isPlain c = true := by
  rw [tail] at hquery hfragment
  cases hsplit : Text.splitFirst? '#' rest with
  | some cut =>
      simp only [hsplit] at hfragment
      split at hfragment <;> cases hfragment
  | none =>
      simp only [hsplit] at hquery
      split at hquery
      · cases hquery
      · rename_i hmark
        intro c hc
        exact isPlain_eq_true_iff.mpr ⟨fun h => Text.splitFirst?_eq_none_iff.mp hmark (h ▸ hc),
          fun h => Text.splitFirst?_eq_none_iff.mp hsplit (h ▸ hc)⟩

/-! ### Cleaning -/

theorem isOuter_of_isIgnored {c : Char} (h : isIgnored c = true) : isOuter c = true := by
  simp only [isIgnored, Bool.or_eq_true, beq_iff_eq] at h
  rcases h with (rfl | rfl) | rfl <;> rfl

theorem kept_eq_self {text : List Char} (h : ∀ c ∈ text, isOuter c = false) : kept text = text := by
  rw [kept, List.filter_eq_self]
  intro c hc
  rw [Bool.not_eq_true', Bool.eq_false_iff]
  intro hignored
  exact Bool.eq_false_iff.mp (h c hc) (isOuter_of_isIgnored hignored)

/-- Whether a text ends in white space or a control character that is not dropped everywhere. -/
def EndsOuter (text : List Char) : Prop :=
  (kept text).getLast?.any isOuter = true

instance (text : List Char) : Decidable (EndsOuter text) :=
  inferInstanceAs (Decidable (_ = true))

/-- A text that does not end in white space is cleaned at its front alone. -/
theorem clean_of_not_endsOuter (hslashes : ∀ c ∈ slashes, c = '/')
    (hend : ¬ EndsOuter (front ++ slashes)) :
    clean (front ++ slashes) = kept (Text.trimStart isOuter front) ++ slashes := by
  cases slashes with
  | cons c slashes =>
      obtain ⟨rfl, hrest⟩ := List.forall_mem_cons.mp hslashes
      rw [clean_slash, kept_trimEnd_slashes hrest]
  | nil =>
      obtain ⟨lead, -, hlead⟩ := Text.trimStart_split isOuter front
      obtain ⟨trail, htrail, htext⟩ := Text.trimEnd_split isOuter (Text.trimStart isOuter front)
      have hnone : kept trail = [] := by
        by_contra hne
        obtain ⟨back, c, hback⟩ := (List.eq_nil_or_concat' (kept trail)).resolve_left hne
        have hmem : c ∈ kept trail := by rw [hback]; simp
        have hlast : kept (front ++ []) = kept lead ++
            kept (Text.trimEnd isOuter (Text.trimStart isOuter front)) ++ back ++ [c] := by
          rw [List.append_nil, List.append_assoc, List.append_assoc, ← hback, ← kept_append,
            ← kept_append, ← htext, ← hlead]
        apply hend
        rw [EndsOuter, hlast, List.getLast?_concat]
        exact htrail c (List.mem_filter.mp hmem).1
      have hclean : clean front = kept (Text.trimEnd isOuter (Text.trimStart isOuter front)) := rfl
      rw [List.append_nil, List.append_nil, hclean]
      conv_rhs => rw [htext, kept_append, hnone, List.append_nil]

/-- A path without white space is kept, and so is the mark of a query behind it. -/
theorem exists_kept_path (hpath : ∀ c ∈ path, isOuter c = false)
    (hmark : mark = [] ∨ ∃ query, mark = '?' :: query) :
    ∃ left, (left = [] ∨ ∃ query, left = '?' :: query) ∧
      kept (Text.trimEnd isOuter (path ++ mark)) = path ++ left := by
  rcases hmark with rfl | ⟨query, rfl⟩
  · refine ⟨[], .inl rfl, ?_⟩
    rw [List.append_nil]
    rcases List.eq_nil_or_concat' path with rfl | ⟨front, c, rfl⟩
    · rfl
    · rw [Text.trimEnd_append_cons (hpath c (by simp))]
      exact kept_eq_self hpath
  · refine ⟨'?' :: kept (Text.trimEnd isOuter query), .inr ⟨_, rfl⟩, ?_⟩
    rw [Text.trimEnd_append_cons rfl, kept_append, kept_eq_self hpath]
    rfl

/-! ### The longer URL -/

/-- A path ends at the mark of a query behind it. -/
theorem takeWhile_isPlain_path (hpath : ∀ c ∈ path, isPlain c = true)
    (hmark : mark = [] ∨ ∃ query, mark = '?' :: query) :
    (path ++ mark).takeWhile isPlain = path := by
  have hself : path.takeWhile isPlain = path := List.takeWhile_eq_self_iff.mpr hpath
  rcases hmark with rfl | ⟨query, rfl⟩
  · rwa [List.append_nil]
  · rwa [takeWhile_isPlain_mark rfl]

/-- The text for the server and the text behind it. -/
theorem exists_authority_split (text : List Char) :
    ∃ server rest, text = server ++ rest ∧ (∀ c ∈ server, endsAuthority true c = false) ∧
      ∀ c, rest.head? = some c → endsAuthority true c = true := by
  refine ⟨_, _, (List.takeWhile_append_dropWhile (p := fun c => !endsAuthority true c)).symm,
    ?_, ?_⟩
  · intro c hc
    simpa using List.mem_takeWhile_imp hc
  · intro c hc
    simpa [hc] using List.head?_dropWhile_not (fun c => !endsAuthority true c) text

theorem head?_append_slash {more : List Char}
    (hrest : ∀ c, rest.head? = some c → endsAuthority true c = true)
    (hmore : ∀ c, more.head? = some c → c = '/') :
    ∀ c, (rest ++ more).head? = some c → endsAuthority true c = true := by
  intro c hc
  cases rest with
  | nil =>
      rw [hmore c hc]
      rfl
  | cons d rest => exact hrest c hc

theorem isSlash_of_endsAuthority {c : Char} (hends : endsAuthority true c = true)
    (hplain : isPlain c = true) : isSlash c = true := by
  obtain ⟨hquery, hfragment⟩ := isPlain_eq_true_iff.mp hplain
  simpa [endsAuthority, isSlash, hquery, hfragment] using hends

/-- Behind the server, a path that is put behind the text continues its path. -/
theorem ofAuthority?_behind (hslashes : ∀ c ∈ slashes, c = '/')
    (hspecial : isSpecial scheme = true)
    (hu : ofAuthority? scheme (front ++ slashes) = some u)
    (hquery : u.query = none) (hfragment : u.fragment = none)
    (hpath : ∀ c ∈ path, isPlain c = true) (hmark : mark = [] ∨ ∃ query, mark = '?' :: query) :
    ∃ v segments more,
      ofAuthority? scheme (front ++ '/' :: (path ++ mark)) = some v ∧ SameOrigin u v ∧
      (∀ segment ∈ segments, '/' ∉ segment) ∧ (∀ c ∈ more, c = '/') ∧
      u.path = Path.render segments ++ more ∧
      v.path = Path.render
        (segments.take (segments.length - Path.climb 0 (Path.pieces true path)) ++
          Path.segments true false path) := by
  obtain ⟨server, rest, rfl, hserver, hrest⟩ := exists_authority_split front
  rw [List.append_assoc] at hu
  rw [List.append_assoc]
  have hshort : ∀ c, (rest ++ slashes).head? = some c → endsAuthority true c = true :=
    head?_append_slash hrest fun c hc => hslashes c (List.mem_of_head? hc)
  have hlong : ∀ c, (rest ++ '/' :: (path ++ mark)).head? = some c → endsAuthority true c = true :=
    head?_append_slash hrest fun c hc => (Option.some_inj.mp hc).symm
  rw [ofAuthority?_eq hspecial hserver hshort] at hu
  rw [ofAuthority?_eq hspecial hserver hlong]
  obtain ⟨found, hfound, rfl⟩ := Option.map_eq_some_iff.mp hu
  have hplain := isPlain_of_tail (Option.map_eq_none_iff.mp hquery)
    (Option.map_eq_none_iff.mp hfragment)
  have hslash : ∀ c, rest.head? = some c → isSlash c = true := fun c hc =>
    isSlash_of_endsAuthority (hrest c hc)
      (hplain c (List.mem_append_left slashes (List.mem_of_head? hc)))
  have hpathShort : (tail (rest ++ slashes)).path = rest ++ slashes := by
    rw [tail_path, List.takeWhile_eq_self_iff.mpr hplain]
  have hpathLong : (tail (rest ++ '/' :: (path ++ mark))).path = rest ++ '/' :: path := by
    rw [tail_path, List.takeWhile_append_of_pos fun c hc => hplain c (List.mem_append_left _ hc),
      List.takeWhile_cons_of_pos rfl, takeWhile_isPlain_path hpath hmark]
  obtain ⟨more, hmore, hfirst⟩ := exists_hostPath_slashes hslash hslashes
  rw [hfound]
  refine ⟨_, entered rest, more, rfl, ⟨rfl, rfl, rfl⟩, slash_not_mem_entered rest, hmore, ?_, ?_⟩
  · exact (congrArg (hostPath true) hpathShort).trans hfirst
  · have hwalk := Path.foldl_step_append (entered rest) [] (Path.pieces true path)
    rw [List.append_nil, List.length_nil] at hwalk
    refine ((congrArg (hostPath true) hpathLong).trans (hostPath_slash hslash path)).trans ?_
    rw [hwalk, ← Path.render_append, List.append_assoc, ← Path.walk_eq, Path.segments]

/-- **A path put behind a URL continues its path.**  The segments that the URL has entered are
there, but for those that the path climbs above, and then those of the path. -/
theorem parse?_behind (hslashes : ∀ c ∈ slashes, c = '/')
    (hu : parse? (String.ofList (front ++ slashes)) = some u) (hhttp : isHttp u.scheme = true)
    (hquery : u.query = none) (hfragment : u.fragment = none)
    (hend : ¬ EndsOuter (front ++ slashes))
    (hpath : ∀ c ∈ path, isOuter c = false ∧ isPlain c = true)
    (hmark : mark = [] ∨ ∃ query, mark = '?' :: query) :
    ∃ v segments more,
      parse? (String.ofList (front ++ '/' :: (path ++ mark))) = some v ∧ SameOrigin u v ∧
      (∀ segment ∈ segments, '/' ∉ segment) ∧ (∀ c ∈ more, c = '/') ∧
      u.path = Path.render segments ++ more ∧
      v.path = Path.render
        (segments.take (segments.length - Path.climb 0 (Path.pieces true path)) ++
          Path.segments true false path) := by
  have hclean := clean_of_not_endsOuter hslashes hend
  obtain ⟨left, hleft, hkept⟩ := exists_kept_path (fun c hc => (hpath c hc).1) hmark
  have hclean' : clean (front ++ '/' :: (path ++ mark)) =
      kept (Text.trimStart isOuter front) ++ '/' :: (path ++ left) := by
    rw [clean_slash, hkept]
  simp only [parse?, String.toList_ofList, hclean, hclean', Option.bind_eq_bind,
    Option.bind_eq_some_iff, Prod.exists] at hu ⊢
  obtain ⟨scheme, after, hscheme, hu⟩ := hu
  obtain ⟨back, rfl, hback⟩ := scheme?_append hslashes hscheme
  rw [(isReadUnder_of_ofScheme? hu).scheme_eq] at hhttp
  obtain ⟨hspecial, hread⟩ := ofScheme?_of_isHttp (back ++ slashes) hhttp
  rw [hread] at hu
  have hserver := exists_server_char hslashes hspecial hu
  rw [dropWhile_slash_append hserver] at hu
  obtain ⟨v, segments, more, hv, hrest⟩ := ofAuthority?_behind hslashes hspecial hu hquery
    hfragment (fun c hc => (hpath c hc).2) hleft
  refine ⟨v, segments, more, ⟨scheme, _, hback _, ?_⟩, hrest⟩
  rw [(ofScheme?_of_isHttp _ hhttp).2, dropWhile_slash_append hserver, hv]

end CredentialGateway.Url
