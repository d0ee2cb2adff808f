/-
# Texts that open an authority

Where a text ends in front of an authority (`opensAt`), a slash behind it is the last of those in
front of a host.  The first word that follows is then that host (`parse_opened`), and as long as
nothing but slashes follow there is none (`server?_parse_of_opens`).
-/
import CodeAssistant.Proofs.Prolonging

namespace CodeAssistant.Url

/-! ## 1. Slashes that open an authority -/

/-- The first of some words. -/
def firstWord (rest : List Char) : List Char := rest.takeWhile (· ≠ '/')

theorem inAuthority_of_isAlpha {kind : Kind} {c : Char} (h : c.isAlpha = true) :
    inAuthority kind c = true := by
  have hne {d : Char} (hd : d.isAlpha = false) : c ≠ d := ne_of_isAlpha h hd
  simp [inAuthority, isSlash, hne (by decide : '/'.isAlpha = false),
    hne (by decide : '\\'.isAlpha = false), hne (by decide : '?'.isAlpha = false),
    hne (by decide : '#'.isAlpha = false)]

theorem splitHost_of_isWord {word : List Char} (h : IsWord word) (inBrackets : Bool) :
    splitHost inBrackets word = (word, []) := by
  induction word generalizing inBrackets with
  | nil => rfl
  | cons c cs ih =>
    obtain ⟨hc, hcs⟩ := List.forall_mem_cons.mp h
    have hcolon : c ≠ ':' := ne_of_isAlpha hc (by decide)
    rw [splitHost, if_neg (by simp [hcolon]), ih hcs]

/-- An authority that is a word is a host and nothing else. -/
theorem readAddress_of_isWord {kind : Kind} {word : List Char} {name : String} (scheme : String)
    (h : IsWord word) (hhost : hostOf kind word = .ok (.name name)) :
    readAddress kind scheme word = .ok ⟨"", none, .name name, none, []⟩ := by
  have hsign : splitAtSign? word = none := by
    have hall : ∀ c ∈ word.reverse, decide (c ≠ '@') = true := by
      intro c hc
      exact decide_eq_true (ne_of_isAlpha (h c (List.mem_reverse.mp hc)) (by decide))
    rw [splitAtSign?, List.dropWhile_eq_nil_iff.mpr hall]
  rw [readAddress, hsign, Option.getD_none]
  dsimp only
  rw [splitHost_of_isWord h, hhost]
  rfl

theorem hostOf_file {word : List Char} {name : String} (h : hostOf .file word = .ok (.name name)) :
    word ≠ [] ∧ Host.ofDomain word = .ok (.name name) := by
  cases word with
  | nil => cases h
  | cons c cs => exact ⟨by simp, h⟩

section Opened

variable {scheme name : String} {cs rest : List Char} (hrest : IsWords rest)

include hrest

theorem IsWords.takeWhile_inAuthority (kind : Kind) :
    rest.takeWhile (inAuthority kind) = firstWord rest := by
  induction rest with
  | nil => rfl
  | cons c rest ih =>
    obtain ⟨hc, hcs⟩ := List.forall_mem_cons.mp hrest
    have hin : inAuthority kind c = decide (c ≠ '/') := by
      rcases hc with hc | rfl
      · rw [inAuthority_of_isAlpha hc, decide_eq_true (ne_of_isAlpha hc (by decide))]
      · simp [inAuthority, isSlash]
    rw [firstWord, List.takeWhile_cons, List.takeWhile_cons, hin, ih hcs, firstWord]

theorem IsWords.isWord_firstWord : IsWord (firstWord rest) := by
  intro c hc
  exact (hrest c ((List.takeWhile_sublist _).subset hc)).resolve_right
    (by simpa using List.mem_takeWhile_imp hc)

/-- The first of some words is the host. -/
theorem server?_ofAuthority {kind : Kind}
    (hhost : hostOf kind (firstWord rest) = .ok (.name name)) :
    ∃ u, ofAuthority kind scheme rest = .ok u ∧ u.server? = some (.name name) := by
  have hword := hrest.isWord_firstWord
  rw [ofAuthority_eq, hrest.takeWhile_inAuthority, readAddress_of_isWord scheme hword hhost, if_neg]
  · exact ⟨_, rfl, rfl⟩
  · rintro ⟨hat, -⟩
    rw [hat] at hword
    cases hword '@' List.mem_cons_self

/-- The first of some words is the host of a file, unless that is the machine itself. -/
theorem server?_ofFile (hslashes : behindSlashes? cs = some rest)
    (hhost : hostOf .file (firstWord rest) = .ok (.name name)) (hname : name ≠ "localhost") :
    ∃ u, ofFile cs = .ok u ∧ u.server? = some (.name name) := by
  have hword := hrest.isWord_firstWord
  obtain ⟨hne, hdomain⟩ := hostOf_file hhost
  have hfile : fileHost rest = .ok (.name name, rest.dropWhile (inAuthority .file)) := by
    rw [fileHost_eq, hrest.takeWhile_inAuthority, hword.withoutBreaks_eq, hword.isDrive_eq,
      if_neg (by simp), if_neg (by simpa using hne), hdomain]
    simp [hname]
  have hsub : rest.dropWhile (inAuthority .file) ⊆ rest := (List.dropWhile_sublist _).subset
  have hunmarked : Unmarked (rest.dropWhile (inAuthority .file)) :=
    hrest.unmarked_slash.mono (List.subset_cons_of_subset _ hsub)
  have hstays : (filePath true (.name name) (rest.dropWhile (inAuthority .file))).2 = true := by
    cases hbehind : rest.dropWhile (inAuthority .file) with
    | nil => rfl
    | cons c behind =>
      have hout := Text.head?_dropWhile_not (inAuthority .file) rest c (by rw [hbehind]; rfl)
      rw [hbehind] at hsub
      have hmore : IsWords behind := by
        intro d hd
        exact hrest d (hsub (List.mem_cons_of_mem _ hd))
      rcases hrest c (hsub List.mem_cons_self) with hc | rfl
      · cases (inAuthority_of_isAlpha hc).symm.trans hout
      · exact congrArg Prod.snd (filePath_words [] true (.name name) hmore)
  refine ⟨fileUrl true (.name name) (rest.dropWhile (inAuthority .file)), ?_, ?_⟩
  · rw [ofFile_eq, filePlace, hslashes, Option.map_some, hfile]
    rfl
  · rw [fileUrl_of_unmarked _ _ hunmarked, hstays]
    rfl

theorem server?_ofScheme (hopens : opensAuthority (Kind.of scheme) cs = true)
    (hhead : ∀ c ∈ rest.head?, c ≠ '/')
    (hhost : hostOf (Kind.of scheme) (firstWord rest) = .ok (.name name))
    (hname : name ≠ "localhost") :
    ∃ u, ofScheme scheme (cs ++ '/' :: rest) = .ok u ∧ u.server? = some (.name name) := by
  rw [ofScheme_eq]
  cases hkind : Kind.of scheme with
  | web =>
    rw [hkind] at hopens hhost
    have hbare : (withoutBreaks cs ++ ['/']).dropWhile (isSlash .web) = [] := by
      rw [List.dropWhile_eq_nil_iff]
      intro c hc
      rcases List.mem_append.mp hc with hc | hc
      · exact List.all_eq_true.mp hopens c hc
      · simp [List.mem_singleton.mp hc, isSlash]
    have hdrop : (withoutBreaks cs ++ '/' :: rest).dropWhile (isSlash .web) = rest := by
      rw [List.append_cons, List.dropWhile_append, hbare, List.isEmpty_nil, if_pos rfl]
      refine Text.dropWhile_eq_self_of_head? fun c hc => ?_
      have hback : c ≠ '\\' := by
        rintro rfl
        rcases hrest _ (List.mem_of_mem_head? hc) with h | h <;> cases h
      simp [isSlash, hhead c hc, hback]
    dsimp only
    rw [withoutBreaks_append, hrest.withoutBreaks_slash, hdrop]
    exact server?_ofAuthority hrest hhost
  | file =>
    rw [hkind] at hopens hhost
    rw [opensAuthority, Bool.and_eq_true, decide_eq_true_eq] at hopens
    obtain ⟨c, hc⟩ := List.length_eq_one_iff.mp hopens.1
    have hslash : isSlash .file c = true := by simpa [hc] using hopens.2
    exact server?_ofFile hrest (behindSlashes?_of_lone_slash hslash hc rest) hhost hname
  | other =>
    rw [hkind] at hopens hhost
    have hlone : withoutBreaks cs = ['/'] := by simpa [opensAuthority] using hopens
    dsimp only
    rw [withoutBreaks_append, hrest.withoutBreaks_slash, hlone]
    exact server?_ofAuthority hrest hhost

/-- **The first word behind a text that opens an authority is a host.** -/
theorem parse_opened (hopens : opensAt cs = true) (hhead : ∀ c ∈ rest.head?, c ≠ '/')
    (hhost : ∀ kind, hostOf kind (firstWord rest) = .ok (.name name))
    (hname : name ≠ "localhost") :
    ∃ u, parse (String.ofList (cs ++ '/' :: rest)) = .ok u ∧ u.server? = some (.name name) := by
  rw [parse_append (by simp [Delimited]) hrest.not_isOuter]
  cases hscheme : schemeOf? cs with
  | none => simp [opensAt, hscheme] at hopens
  | some p =>
    rw [opensAt, hscheme] at hopens
    exact server?_ofScheme hrest hopens hhead (hhost _) hname

end Opened

/-! ## 2. Slashes alone -/

/-- Nothing but slashes and breaks. -/
def IsBareSlashes (kind : Kind) (cs : List Char) : Prop :=
  ∀ c ∈ cs, isSlash kind c = true ∨ isBreak c = true

section Slashes

variable {kind : Kind} {scheme : String} {cs : List Char} {u : Url}

theorem IsBareSlashes.of_opens (h : opensAuthority kind cs = true) : IsBareSlashes kind cs := by
  have hall : ∀ c ∈ withoutBreaks cs, isSlash kind c = true := by
    cases kind with
    | web => exact List.all_eq_true.mp h
    | file =>
      rw [opensAuthority, Bool.and_eq_true] at h
      exact List.all_eq_true.mp h.2
    | other =>
      rw [opensAuthority, decide_eq_true_eq] at h
      simp [h, isSlash]
  intro c hc
  by_cases hbreak : isBreak c = true
  · exact Or.inr hbreak
  · exact Or.inl (hall c (List.mem_filter.mpr ⟨hc, by simp [hbreak]⟩))

/-- An authority without characters has no host. -/
theorem server?_of_no_authority (h : cs.takeWhile (inAuthority kind) = [])
    (hu : ofAuthority kind scheme cs = .ok u) : u.server? = none := by
  rw [ofAuthority_eq, h, if_neg (by simp)] at hu
  cases kind with
  | web => cases hu
  | file => cases hu
  | other =>
    cases hu
    rfl

theorem server?_ofFile_of_bare (h : IsBareSlashes .file cs) (hu : ofFile cs = .ok u) :
    u.server? = none := by
  have hplace : ∃ behind, filePlace cs = .ok (.empty, behind) := by
    rw [filePlace]
    cases hslashes : behindSlashes? cs with
    | none => exact ⟨cs, rfl⟩
    | some inner =>
      have hempty : withoutBreaks (inner.takeWhile (inAuthority .file)) = [] := by
        rw [withoutBreaks, List.filter_eq_nil_iff]
        intro c hc
        have hin := List.mem_takeWhile_imp hc
        have hmem := behindSlashes?_subset hslashes ((List.takeWhile_sublist _).subset hc)
        rcases h c hmem with h | h
        · simp [inAuthority, h] at hin
        · simp [h]
      refine ⟨inner.dropWhile (inAuthority .file), ?_⟩
      rw [Option.map_some, Option.getD_some, fileHost_eq, hempty]
      rfl
  obtain ⟨behind, hbehind⟩ := hplace
  rw [ofFile_eq, hbehind] at hu
  cases hu
  simp [server?, fileUrl]

theorem server?_ofScheme_of_bare (h : IsBareSlashes (Kind.of scheme) cs)
    (hu : ofScheme scheme cs = .ok u) : u.server? = none := by
  have hslashes : ∀ c ∈ withoutBreaks cs, isSlash (Kind.of scheme) c = true := by
    intro c hc
    obtain ⟨hmem, hbreak⟩ := List.mem_filter.mp hc
    exact (h c hmem).resolve_right (by simpa using hbreak)
  rw [ofScheme_eq] at hu
  cases hkind : Kind.of scheme with
  | web =>
    rw [hkind] at hu hslashes
    dsimp only at hu
    rw [List.dropWhile_eq_nil_iff.mpr hslashes] at hu
    exact server?_of_no_authority rfl hu
  | file =>
    rw [hkind] at hu
    exact server?_ofFile_of_bare (hkind ▸ h) hu
  | other =>
    rw [hkind] at hu hslashes
    dsimp only at hu
    by_cases hpair : ∃ inner, withoutBreaks cs = '/' :: '/' :: inner
    · obtain ⟨inner, hinner⟩ := hpair
      rw [hinner] at hu hslashes
      have hnone : inner.takeWhile (inAuthority .other) = [] := by
        cases inner with
        | nil => rfl
        | cons c inner =>
          rw [List.takeWhile_cons_of_neg]
          simp [inAuthority, hslashes c (by simp)]
      exact server?_of_no_authority hnone hu
    · rw [ofOther_of_not_authority scheme fun inner h => hpair ⟨inner, h⟩] at hu
      cases hu
      rfl

/-- **A text that opens an authority has no host**, with slashes behind it or not. -/
theorem server?_parse_of_opens (hopens : opensAt cs = true) (k : Nat)
    (hlast : ∀ c ∈ (cs ++ List.replicate k '/').getLast?, isOuter c = false)
    (hu : parse (String.ofList (cs ++ List.replicate k '/')) = .ok u) : u.server? = none := by
  have hdelimited : Delimited (List.replicate k '/') := by
    intro c hc
    exact Or.inl (List.eq_of_mem_replicate (List.mem_of_mem_head? hc))
  rw [parse_append hdelimited hlast] at hu
  cases hscheme : schemeOf? cs with
  | none => simp [opensAt, hscheme] at hopens
  | some p =>
    rw [opensAt, hscheme] at hopens
    rw [hscheme] at hu
    refine server?_ofScheme_of_bare (fun c hc => ?_) hu
    rcases List.mem_append.mp hc with hc | hc
    · exact IsBareSlashes.of_opens hopens c hc
    · rw [List.eq_of_mem_replicate hc]
      simp [isSlash]

end Slashes

end CodeAssistant.Url
