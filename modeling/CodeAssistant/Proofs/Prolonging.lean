/-
# URLs whose text goes on

A URL is read by the kind of its scheme: as a web address, as the URL of a file, or without rules of
its own.  Each reads a text that goes on behind a slash, a question mark or a number sign as it read
the text so far, with the new part in the path, the query or the fragment.  The one exception is a
text that ends where an authority could start (`opensAuthority`): a slash behind it opens one.

* `parse_under`: words behind a slash are added to the path and to nothing else;
* `parse_slash`: a slash at the end changes no more than the slashes at the end of the path;
* `parse_marked`: what follows a question mark or a number sign is no part of the path;
* `parse_of_unmarked`: without either there is neither query nor fragment.
-/
import CodeAssistant.Proofs.Authorities

namespace CodeAssistant.Url

/-! ## 1. Files -/

/-- The host of a file's URL and what stands behind it. -/
def filePlace (cs : List Char) : Except Fault (Host × List Char) :=
  ((behindSlashes? cs).map fileHost).getD (.ok (.empty, cs))

/-- The URL of a file with a host and what stands behind it. -/
def fileUrl (slashed : Bool) (host : Host) (behind : List Char) : Url :=
  let tail := Tail.of behind
  { scheme := "file"
    host := some (if (filePath slashed host tail.path).2 then host else .empty)
    path := .segments (shown (filePath slashed host tail.path).1)
    query := (tail.query.map withoutBreaks).map (Percent.encode Percent.inSpecialQuery)
    fragment := (tail.fragment.map withoutBreaks).map (Percent.encode Percent.inFragment) }

theorem ofFile_eq (cs : List Char) :
    ofFile cs = (filePlace cs).map fun p => fileUrl (behindSlashes? cs).isSome p.1 p.2 := by
  rw [ofFile, filePlace]
  cases ((behindSlashes? cs).map fileHost).getD (.ok (.empty, cs)) <;> rfl

theorem fileHost_eq (cs : List Char) :
    fileHost cs =
      if isDrive (withoutBreaks (cs.takeWhile (inAuthority .file))) then .ok (.empty, cs)
      else if (withoutBreaks (cs.takeWhile (inAuthority .file))).isEmpty then
        .ok (.empty, cs.dropWhile (inAuthority .file))
      else match Host.ofDomain (withoutBreaks (cs.takeWhile (inAuthority .file))) with
        | .error fault => .error fault
        | .ok host => .ok (if host = .name "localhost" then .empty else host,
            cs.dropWhile (inAuthority .file)) := rfl

theorem fileHost_append (cs : List Char) {rest : List Char} (h : Delimited rest) :
    fileHost (cs ++ rest) = (fileHost cs).map fun p => (p.1, p.2 ++ rest) := by
  have hin : ∀ c ∈ rest.head?, inAuthority .file c = false := h.head_inAuthority .file
  rw [fileHost_eq, fileHost_eq, takeWhile_append_of_head cs hin, dropWhile_append_of_head cs hin]
  split
  · rfl
  · split
    · rfl
    · cases Host.ofDomain (withoutBreaks (cs.takeWhile (inAuthority .file))) <;> rfl

/-- A slash behind a text opens an authority: what comes next is a host.  Breaks do not count. -/
def opensAuthority (kind : Kind) (cs : List Char) : Bool :=
  match kind with
  | .web => (withoutBreaks cs).all (isSlash .web)
  | .file => (withoutBreaks cs).length = 1 && (withoutBreaks cs).all (isSlash .file)
  | .other => withoutBreaks cs = ['/']

theorem withoutBreaks_dropWhile (cs : List Char) :
    withoutBreaks (cs.dropWhile isBreak) = withoutBreaks cs := by
  induction cs with
  | nil => rfl
  | cons c cs ih =>
    rw [List.dropWhile_cons]
    split
    · rename_i hc
      rw [ih, withoutBreaks, withoutBreaks, List.filter_cons_of_neg (by simp [hc])]
    · rfl

theorem withoutBreaks_append (cs ds : List Char) :
    withoutBreaks (cs ++ ds) = withoutBreaks cs ++ withoutBreaks ds :=
  List.filter_append _ _

/-- The two slashes in front of a file's host are found before what a text goes on with, unless
that brings the second of them. -/
theorem behindSlashes?_append {cs rest : List Char} (hbreak : ∀ c ∈ rest.head?, isBreak c = false)
    (hnone : withoutBreaks cs = [] → behindSlashes? rest = none)
    (hone : ∀ c, withoutBreaks cs = [c] → ∀ d ∈ rest.head?,
      (isSlash .file c && isSlash .file d) = false) :
    behindSlashes? (cs ++ rest) = (behindSlashes? cs).map (· ++ rest) := by
  have hrest : rest.dropWhile isBreak = rest := Text.dropWhile_eq_self_of_head? hbreak
  rw [← withoutBreaks_dropWhile cs] at hnone hone
  unfold behindSlashes?
  rw [dropWhile_append_of_head cs hbreak]
  cases hfirst : cs.dropWhile isBreak with
  | nil =>
    rw [hfirst] at hnone
    have hrest' := hnone rfl
    unfold behindSlashes? at hrest'
    rw [hrest] at hrest'
    exact hrest'
  | cons c behind =>
    rw [hfirst] at hone
    rw [List.cons_append]
    dsimp only
    rw [dropWhile_append_of_head behind hbreak]
    cases hsecond : behind.dropWhile isBreak with
    | nil =>
      have hc : isBreak c = false := by
        have := Text.head?_dropWhile_not isBreak cs c (by rw [hfirst]; rfl)
        exact this
      have hlone : withoutBreaks (c :: behind) = [c] := by
        rw [withoutBreaks, List.filter_cons_of_pos (by simp [hc]), List.filter_eq_nil_iff.mpr]
        intro d hd
        simp [List.dropWhile_eq_nil_iff.mp hsecond d hd]
      cases rest with
      | nil => rfl
      | cons d rest =>
        rw [List.nil_append]
        dsimp only
        rw [if_neg (by simpa using hone c hlone d rfl)]
        rfl
    | cons d behind =>
      rw [List.cons_append]
      dsimp only
      split <;> rfl

section Files

variable {cs rest : List Char}

theorem filePlace_append (hrest : Delimited rest)
    (hslashes : behindSlashes? (cs ++ rest) = (behindSlashes? cs).map (· ++ rest)) :
    filePlace (cs ++ rest) = (filePlace cs).map fun p => (p.1, p.2 ++ rest) := by
  rw [filePlace, filePlace, hslashes]
  cases behindSlashes? cs with
  | none => rfl
  | some behind => exact fileHost_append behind hrest

theorem behindSlashes?_subset {behind : List Char} (h : behindSlashes? cs = some behind) :
    behind ⊆ cs := by
  unfold behindSlashes? at h
  split at h
  · rename_i c cs' hfirst
    split at h
    · rename_i d cs'' hsecond
      split at h
      · cases h
        have hinner := (List.dropWhile_sublist (l := cs') isBreak).subset
        have houter := (List.dropWhile_sublist (l := cs) isBreak).subset
        rw [hsecond] at hinner
        rw [hfirst] at houter
        intro x hx
        exact houter (List.mem_cons_of_mem _ (hinner (List.mem_cons_of_mem _ hx)))
      · cases h
    · cases h
  · cases h

theorem fileHost_subset {host : Host} {behind : List Char}
    (h : fileHost cs = .ok (host, behind)) : behind ⊆ cs := by
  have hdrop : cs.dropWhile (inAuthority .file) ⊆ cs := (List.dropWhile_sublist _).subset
  rw [fileHost_eq] at h
  split at h
  · cases h
    exact List.Subset.refl _
  · split at h
    · cases h
      exact hdrop
    · split at h
      · cases h
      · cases h
        exact hdrop

theorem filePlace_subset {host : Host} {behind : List Char}
    (h : filePlace cs = .ok (host, behind)) : behind ⊆ cs := by
  rw [filePlace] at h
  cases hslashes : behindSlashes? cs with
  | none =>
    rw [hslashes] at h
    cases h
    exact List.Subset.refl _
  | some inner =>
    rw [hslashes] at h
    exact List.Subset.trans (fileHost_subset h) (behindSlashes?_subset hslashes)

theorem fileUrl_of_unmarked (slashed : Bool) (host : Host) {behind : List Char}
    (h : Unmarked behind) :
    fileUrl slashed host behind = {
      scheme := "file"
      host := some (if (filePath slashed host behind).2 then host else .empty)
      path := .segments (shown (filePath slashed host behind).1) } := by
  rw [fileUrl, Tail.of_unmarked h]
  rfl

/-- One character alone, with breaks around it. -/
theorem exists_of_lone {c : Char} (h : withoutBreaks cs = [c]) :
    ∃ behind, cs.dropWhile isBreak = c :: behind ∧ ∀ d ∈ behind, isBreak d = true := by
  rw [← withoutBreaks_dropWhile] at h
  cases hfirst : cs.dropWhile isBreak with
  | nil =>
    rw [hfirst] at h
    cases h
  | cons d behind =>
    have hd : isBreak d = false := Text.head?_dropWhile_not isBreak cs d (by rw [hfirst]; rfl)
    rw [hfirst, withoutBreaks, List.filter_cons_of_pos (by simp [hd])] at h
    obtain ⟨rfl, hbehind⟩ := List.cons.inj h
    exact ⟨behind, rfl, by simpa using List.filter_eq_nil_iff.mp hbehind⟩

theorem behindSlashes?_of_lone {c : Char} (h : withoutBreaks cs = [c]) :
    behindSlashes? cs = none := by
  obtain ⟨behind, hfirst, hbreaks⟩ := exists_of_lone h
  rw [behindSlashes?, hfirst]
  dsimp only
  rw [List.dropWhile_eq_nil_iff.mpr hbreaks]

/-- A slash behind a lone one is the second in front of a host. -/
theorem behindSlashes?_of_lone_slash {c : Char} (hc : isSlash .file c = true)
    (h : withoutBreaks cs = [c]) (rest : List Char) :
    behindSlashes? (cs ++ '/' :: rest) = some rest := by
  obtain ⟨behind, hfirst, hbreaks⟩ := exists_of_lone h
  rw [behindSlashes?, dropWhile_append_of_head cs (by rintro c ⟨⟩; decide), hfirst,
    List.cons_append]
  dsimp only
  rw [dropWhile_append_of_head behind (by rintro c ⟨⟩; decide),
    List.dropWhile_eq_nil_iff.mpr hbreaks, List.nil_append]
  exact if_pos (by rw [hc]; decide)

/-- A lone slash is an empty path. -/
theorem filePath_of_lone_slash {c : Char} (hc : isSlash .file c = true)
    (h : withoutBreaks cs = [c]) : filePath false .empty cs = ([""], true) := by
  obtain ⟨behind, hfirst, hbreaks⟩ := exists_of_lone h
  have hone : Text.splitWhere (isSlash .file) behind = [behind] := by
    refine Text.splitWhere_eq_singleton fun e he => ?_
    have hbreak := hbreaks e he
    simp only [isBreak, Bool.or_eq_true, decide_eq_true_eq] at hbreak
    rcases hbreak with (rfl | rfl) | rfl <;> decide
  have hcut : cutDrive? behind = none := by
    rw [cutDrive?, List.dropWhile_eq_nil_iff.mpr hbreaks]
  have hempty : withoutBreaks behind = [] := by
    rw [withoutBreaks, List.filter_eq_nil_iff]
    simpa using hbreaks
  rw [filePath, hfirst, if_neg (by simp), dropSlash, if_pos hc, hone, addFileSegments]
  simp only [List.isEmpty_nil, if_true, hcut, hempty]
  decide

variable (hcs : Unmarked cs)

include hcs

theorem ofFile_under (hopens : opensAuthority .file cs = false) (hrest : IsWords rest)
    (hhead : ∀ c ∈ rest.head?, c ≠ '/') :
    ofFile (cs ++ '/' :: rest) = (ofFile (cs ++ ['/'])).map (under rest) ∧
      ∀ u, ofFile (cs ++ ['/']) = .ok u → u.IsDirectory := by
  have hslashes {rest : List Char} (hrest : IsWords rest) (hhead : ∀ c ∈ rest.head?, c ≠ '/') :
      behindSlashes? (cs ++ '/' :: rest) = (behindSlashes? cs).map (· ++ '/' :: rest) := by
    refine behindSlashes?_append (by rintro c ⟨⟩; decide) (fun _ => ?_) ?_
    · cases rest with
      | nil => rfl
      | cons c rest =>
        have hc : c.isAlpha = true := (hrest c List.mem_cons_self).resolve_right (hhead c rfl)
        have hword : IsWord [c] := by simpa [IsWord] using hc
        have hbreak : isBreak c = false := hword.not_isBreak c List.mem_cons_self
        have hback : isSlash .file c = false := by
          simp [isSlash, hhead c rfl, ne_of_isAlpha hc (by decide : '\\'.isAlpha = false)]
        rw [behindSlashes?, List.dropWhile_cons_of_neg (by decide)]
        dsimp only
        rw [List.dropWhile_cons_of_neg (by simp [hbreak])]
        simp [hback]
    · intro c hc d hd
      rw [opensAuthority, hc] at hopens
      simpa using fun h => absurd h (by simpa using hopens)
  have hplace {rest : List Char} (hrest : IsWords rest) (hhead : ∀ c ∈ rest.head?, c ≠ '/') :=
    @filePlace_append cs ('/' :: rest) (by simp [Delimited]) (hslashes hrest hhead)
  rw [ofFile_eq, ofFile_eq, hplace hrest hhead, hplace isWords_nil (by simp), hslashes hrest hhead,
    hslashes isWords_nil (by simp), Option.isSome_map, Option.isSome_map]
  cases hfound : filePlace cs with
  | error fault => exact ⟨rfl, by simp [Except.map]⟩
  | ok p =>
    have hbehind := hcs.mono (filePlace_subset hfound)
    simp only [Except.map, fileUrl_of_unmarked _ _ (hbehind.append hrest.unmarked_slash),
      fileUrl_of_unmarked _ _ (hbehind.append isWords_nil.unmarked_slash),
      filePath_words _ _ _ hrest, filePath_words _ _ _ isWords_nil, shown_words _ hhead,
      shown_words_nil]
    constructor
    · exact congrArg _ (congrArg (Url.mk "file" "" none _ none · none none)
        (Path.behind_under _ rest).symm)
    · rintro u ⟨⟩
      exact isDirectory_behind rfl rfl rfl

/-- A slash at the end leaves the place as it is. -/
theorem ofFile_slash : Alike (ofFile cs) (ofFile (cs ++ ['/'])) := by
  cases hopens : opensAuthority .file cs with
  | true =>
    -- The slash completes the two in front of a host, and the host is empty.
    rw [opensAuthority, Bool.and_eq_true, decide_eq_true_eq] at hopens
    obtain ⟨c, hc⟩ := List.length_eq_one_iff.mp hopens.1
    have hslashed : isSlash .file c = true := by
      have hall := hopens.2
      rw [hc] at hall
      simpa using hall
    have hlone : ofFile cs = .ok {
        scheme := "file", host := some .empty, path := .segments [""] } := by
      rw [ofFile_eq, filePlace, behindSlashes?_of_lone hc]
      simp only [Option.map_none, Option.getD_none, Except.map, Option.isSome_none]
      rw [fileUrl_of_unmarked _ _ hcs, filePath_of_lone_slash hslashed hc]
      rfl
    have hpair : ofFile (cs ++ ['/']) = .ok {
        scheme := "file", host := some .empty, path := .segments [""] } := by
      rw [ofFile_eq, filePlace, behindSlashes?_of_lone_slash hslashed hc]
      rfl
    rw [hlone, hpair]
    exact SamePlace.refl _
  | false =>
    have hslashes : behindSlashes? (cs ++ ['/']) = (behindSlashes? cs).map (· ++ ['/']) := by
      refine behindSlashes?_append (by rintro c ⟨⟩; decide) (fun _ => rfl) ?_
      intro c hc d hd
      rw [opensAuthority, hc] at hopens
      simpa using fun h => absurd h (by simpa using hopens)
    rw [ofFile_eq, ofFile_eq, filePlace_append (by simp [Delimited]) hslashes, hslashes,
      Option.isSome_map]
    cases hfound : filePlace cs with
    | error fault => trivial
    | ok p =>
      have hbehind := hcs.mono (filePlace_subset hfound)
      obtain ⟨hstays, hsegments⟩ := filePath_last p.2 (behindSlashes? cs).isSome p.1
      simp only [Except.map, fileUrl_of_unmarked _ _ hbehind,
        fileUrl_of_unmarked _ _ (hbehind.append isWords_nil.unmarked_slash),
        filePath_words _ _ _ isWords_nil, shown_words_nil, hstays]
      exact ⟨rfl, rfl, rfl, sameDirectory_shown hsegments⟩

/-- What follows a question mark or a number sign falls to the query or the fragment. -/
theorem ofFile_marked {mark : Char} (hmark : mark = '?' ∨ mark = '#') (rest' : List Char) :
    (ofFile (cs ++ mark :: rest)).map bare = (ofFile (cs ++ mark :: rest')).map bare := by
  have hslash : isSlash .file mark = false := by rcases hmark with rfl | rfl <;> decide
  have hbreak : isBreak mark = false := by rcases hmark with rfl | rfl <;> decide
  have hslashes (rest : List Char) :
      behindSlashes? (cs ++ mark :: rest) = (behindSlashes? cs).map (· ++ mark :: rest) := by
    refine behindSlashes?_append (by rintro c ⟨⟩; exact hbreak) (fun _ => ?_) ?_
    · rw [behindSlashes?, List.dropWhile_cons_of_neg (by simp [hbreak])]
      dsimp only
      split
      · simp [hslash]
      · rfl
    · rintro c - d ⟨⟩
      simp [hslash]
  have hplace (rest : List Char) := @filePlace_append cs (mark :: rest)
    (by rintro c ⟨⟩; exact Or.inr hmark) (hslashes rest)
  rw [ofFile_eq, ofFile_eq, hplace rest, hplace rest', hslashes rest, hslashes rest',
    Option.isSome_map, Option.isSome_map]
  cases hfound : filePlace cs with
  | error fault => rfl
  | ok p =>
    have hbehind := hcs.mono (filePlace_subset hfound)
    simp only [Except.map, fileUrl, bare, Tail.path_of_marked hbehind hmark]

end Files

/-! ## 2. URLs without rules of their own -/

/-- The path of a URL with neither authority nor file. -/
def plainPath (cs : List Char) : Path :=
  match cs with
  | '/' :: rest => .segments (segmentsFrom .other [] rest)
  | text => .plain (Percent.encode Percent.controls text)

theorem plainPath_of_ne_slash {c : Char} (hc : c ≠ '/') (cs : List Char) :
    plainPath (c :: cs) = .plain (Percent.encode Percent.controls (c :: cs)) := by
  unfold plainPath
  split
  · rename_i heq
    cases heq
    exact absurd rfl hc
  · rfl

theorem ofPlain_of_unmarked (scheme : String) {cs : List Char} (h : Unmarked cs) :
    ofPlain scheme cs = { scheme, path := plainPath cs } := by
  rw [ofPlain, Tail.of_unmarked h]
  rfl

theorem IsWords.encode_append {cs rest : List Char} (hrest : IsWords rest) :
    Percent.encode Percent.controls (cs ++ '/' :: rest) =
      String.ofList (Percent.encodeList Percent.controls cs ++ '/' :: rest) := by
  have hplain : Percent.encodeList Percent.controls ('/' :: rest) = '/' :: rest := by
    refine Percent.encodeList_eq_self fun c hc => ?_
    rcases List.mem_cons.mp hc with rfl | hc
    · decide
    · rcases hrest c hc with hc | rfl
      · have hbounds := bounds_of_isAlpha hc
        simp only [Percent.controls, Bool.or_eq_false_iff, decide_eq_false_iff_not]
        omega
      · decide
  rw [Percent.encode, Percent.encodeList, List.flatMap_append]
  exact congrArg (fun cs' => String.ofList (Percent.encodeList Percent.controls cs ++ cs')) hplain

theorem ofPlain_under (scheme : String) {cs rest : List Char} (hcs : Unmarked cs)
    (hrest : IsWords rest) :
    ofPlain scheme (cs ++ '/' :: rest) = (ofPlain scheme (cs ++ ['/'])).under rest ∧
      (ofPlain scheme (cs ++ ['/'])).IsDirectory := by
  rw [ofPlain_of_unmarked scheme (hcs.append hrest.unmarked_slash),
    ofPlain_of_unmarked scheme (hcs.append isWords_nil.unmarked_slash)]
  have hsegments {front : List String}
      (hpath : plainPath (cs ++ '/' :: rest) = .behind front rest)
      (hdir : plainPath (cs ++ ['/']) = .behind front []) :
      ({ scheme, path := plainPath (cs ++ '/' :: rest) } : Url) =
          ({ scheme, path := plainPath (cs ++ ['/']) } : Url).under rest ∧
        ({ scheme, path := plainPath (cs ++ ['/']) } : Url).IsDirectory := by
    rw [under, hpath, hdir, Path.behind_under]
    exact ⟨rfl, isDirectory_behind rfl rfl rfl⟩
  cases cs with
  | nil =>
    exact hsegments (congrArg Path.segments (segmentsFrom_of_words .other [] hrest))
      (congrArg Path.segments (segmentsFrom_of_words .other [] isWords_nil))
  | cons c cs =>
    by_cases hc : c = '/'
    · subst hc
      exact hsegments (congrArg Path.segments (segmentsFrom_words .other [] cs hrest))
        (congrArg Path.segments (segmentsFrom_words .other [] cs isWords_nil))
    · rw [List.cons_append, List.cons_append, plainPath_of_ne_slash hc, plainPath_of_ne_slash hc,
        ← List.cons_append, ← List.cons_append, hrest.encode_append, isWords_nil.encode_append]
      refine ⟨?_, rfl, rfl, Percent.encodeList Percent.controls (c :: cs), ?_, fun more => ?_⟩
      · simp [under, Path.under, String.append_assoc]
      · simp [Path.write]
      · simp [Path.under, Path.write]

theorem plainPath_slash (cs : List Char) :
    SameDirectory (plainPath cs) (plainPath (cs ++ ['/'])) := by
  cases cs with
  | nil => rfl
  | cons c cs =>
    by_cases hc : c = '/'
    · subst hc
      have hpath : plainPath ('/' :: cs ++ ['/']) = .behind _ [] :=
        congrArg Path.segments (segmentsFrom_words .other [] cs isWords_nil)
      rw [hpath]
      exact sameDirectory_behind (segmentsFrom_last .other [] cs)
    · rw [List.cons_append, plainPath_of_ne_slash hc, plainPath_of_ne_slash hc, ← List.cons_append,
        isWords_nil.encode_append]
      simp [SameDirectory, Path.write, Percent.encode]

/-- The URL of a scheme without rules of its own, of a text without breaks. -/
def ofOther (scheme : String) (cs : List Char) : Except Fault Url :=
  match cs with
  | '/' :: '/' :: rest => ofAuthority .other scheme rest
  | cs => .ok (ofPlain scheme cs)

theorem ofOther_of_not_authority (scheme : String) {cs : List Char}
    (h : ∀ rest, cs ≠ '/' :: '/' :: rest) : ofOther scheme cs = .ok (ofPlain scheme cs) := by
  unfold ofOther
  split
  · exact absurd rfl (h _)
  · rfl

/-- What a text goes on with brings no authority, unless it brings the second slash of one. -/
theorem append_ne_slashes {cs rest : List Char} (h : ∀ inner, cs ≠ '/' :: '/' :: inner)
    (hnone : cs = [] → ∀ inner, rest ≠ '/' :: '/' :: inner)
    (hone : cs = ['/'] → ∀ c ∈ rest.head?, c ≠ '/') (inner : List Char) :
    cs ++ rest ≠ '/' :: '/' :: inner := by
  match cs with
  | [] => exact hnone rfl inner
  | [c] =>
    intro heq
    simp only [List.cons_append, List.nil_append, List.cons.injEq] at heq
    obtain ⟨rfl, rfl⟩ := heq
    exact hone rfl '/' rfl rfl
  | c :: d :: behind =>
    intro heq
    simp only [List.cons_append, List.cons.injEq] at heq
    obtain ⟨rfl, rfl, -⟩ := heq
    exact h behind rfl

section Others

variable (scheme : String) {cs rest : List Char} (hcs : Unmarked cs)

include hcs

theorem ofOther_under (hopens : cs ≠ ['/']) (hrest : IsWords rest)
    (hhead : ∀ c ∈ rest.head?, c ≠ '/') :
    ofOther scheme (cs ++ '/' :: rest) = (ofOther scheme (cs ++ ['/'])).map (under rest) ∧
      ∀ u, ofOther scheme (cs ++ ['/']) = .ok u → u.IsDirectory := by
  by_cases hslashes : ∃ inner, cs = '/' :: '/' :: inner
  · obtain ⟨inner, rfl⟩ := hslashes
    exact ofAuthority_under .other scheme
      hcs.tail.tail hrest
  · have hplain (rest : List Char) (hhead : ∀ c ∈ rest.head?, c ≠ '/') :
        ofOther scheme (cs ++ '/' :: rest) = .ok (ofPlain scheme (cs ++ '/' :: rest)) := by
      refine ofOther_of_not_authority scheme (append_ne_slashes
        (fun inner h => hslashes ⟨inner, h⟩) ?_ fun h => absurd h hopens)
      rintro - inner heq
      exact hhead '/' (by rw [(List.cons.inj heq).2]; rfl) rfl
    obtain ⟨hunder, hdirectory⟩ := ofPlain_under scheme hcs hrest
    rw [hplain rest hhead, hplain [] (by simp), hunder]
    exact ⟨rfl, fun u hu => by cases hu; exact hdirectory⟩

theorem ofOther_slash
    (h : cs.getLast? ≠ some '@' ∨ ∃ u, ofOther scheme (cs ++ ['/']) = .ok u) :
    Alike (ofOther scheme cs) (ofOther scheme (cs ++ ['/'])) := by
  by_cases hslashes : ∃ inner, cs = '/' :: '/' :: inner
  · obtain ⟨inner, rfl⟩ := hslashes
    refine ofAuthority_slash .other scheme
      hcs.tail.tail
      (h.imp_left ?_)
    rintro hlast rfl
    exact hlast rfl
  · have hown : ofOther scheme cs = .ok (ofPlain scheme cs) :=
      ofOther_of_not_authority scheme fun inner h => hslashes ⟨inner, h⟩
    rw [hown]
    by_cases hopens : cs = ['/']
    · -- The slash opens an authority, and its host is empty.
      subst hopens
      have hopened : ofOther scheme ['/', '/'] =
        .ok { scheme, host := some .empty, path := .segments [] } := rfl
      have hpath : SameDirectory (.segments [""]) (.segments []) := by
        rw [SameDirectory]
        decide
      rw [List.cons_append, List.nil_append, hopened]
      exact ⟨rfl, rfl, rfl, hpath⟩
    · have hslash : Unmarked ['/'] := isWords_nil.unmarked_slash
      rw [ofOther_of_not_authority scheme (append_ne_slashes
          (fun inner h => hslashes ⟨inner, h⟩) (by simp) fun h => absurd h hopens),
        ofPlain_of_unmarked scheme hcs, ofPlain_of_unmarked scheme (hcs.append hslash)]
      exact ⟨rfl, rfl, rfl, plainPath_slash cs⟩

theorem ofOther_marked {mark : Char} (hmark : mark = '?' ∨ mark = '#') (rest' : List Char) :
    (ofOther scheme (cs ++ mark :: rest)).map bare =
      (ofOther scheme (cs ++ mark :: rest')).map bare := by
  by_cases hslashes : ∃ inner, cs = '/' :: '/' :: inner
  · obtain ⟨inner, rfl⟩ := hslashes
    exact ofAuthority_marked .other scheme
      hcs.tail.tail hmark rest'
  · have hne : mark ≠ '/' := by rcases hmark with rfl | rfl <;> decide
    have hplain (rest : List Char) :
        ofOther scheme (cs ++ mark :: rest) = .ok (ofPlain scheme (cs ++ mark :: rest)) := by
      refine ofOther_of_not_authority scheme (append_ne_slashes
        (fun inner h => hslashes ⟨inner, h⟩) ?_ fun _ => by simpa using hne)
      rintro - inner heq
      exact hne (List.cons.inj heq).1
    have hpath (rest : List Char) : bare (ofPlain scheme (cs ++ mark :: rest)) =
        { scheme, path := plainPath cs } := by
      rw [bare, ofPlain, Tail.path_of_marked hcs hmark]
      rfl
    rw [hplain rest, hplain rest']
    simp only [Except.map, hpath]

end Others

/-! ## 3. Whole texts -/

theorem ofScheme_eq (scheme : String) (cs : List Char) :
    ofScheme scheme cs = match Kind.of scheme with
      | .web => ofAuthority .web scheme ((withoutBreaks cs).dropWhile (isSlash .web))
      | .file => ofFile cs
      | .other => ofOther scheme (withoutBreaks cs) := rfl

theorem Unmarked.withoutBreaks {cs : List Char} (h : Unmarked cs) :
    Unmarked (withoutBreaks cs) :=
  h.mono List.filter_sublist.subset

theorem IsWords.withoutBreaks_slash {rest : List Char} (h : IsWords rest) :
    Url.withoutBreaks ('/' :: rest) = '/' :: rest := by
  rw [Url.withoutBreaks, List.filter_eq_self]
  intro c hc
  rcases List.mem_cons.mp hc with rfl | hc
  · decide
  · rcases h c hc with hc | rfl
    · have hword : IsWord [c] := by simpa [IsWord] using hc
      simp [hword.not_isBreak c List.mem_cons_self]
    · decide

/-- Slashes in front of a web address go, and what is not a slash stays. -/
theorem dropWhile_slash_append {cs rest : List Char} (h : cs.all (isSlash .web) = false) :
    (cs ++ rest).dropWhile (isSlash .web) = cs.dropWhile (isSlash .web) ++ rest := by
  rw [List.dropWhile_append, if_neg]
  rw [List.isEmpty_iff, List.dropWhile_eq_nil_iff]
  intro hall
  rw [List.all_eq_true.mpr hall] at h
  cases h

section Schemes

variable (scheme : String) {cs rest : List Char} (hcs : Unmarked cs)

include hcs

theorem ofScheme_under (hopens : opensAuthority (Kind.of scheme) cs = false)
    (hrest : IsWords rest) (hhead : ∀ c ∈ rest.head?, c ≠ '/') :
    ofScheme scheme (cs ++ '/' :: rest) = (ofScheme scheme (cs ++ ['/'])).map (under rest) ∧
      ∀ u, ofScheme scheme (cs ++ ['/']) = .ok u → u.IsDirectory := by
  rw [ofScheme_eq, ofScheme_eq]
  cases hkind : Kind.of scheme with
  | web =>
    rw [hkind, opensAuthority] at hopens
    dsimp only
    rw [withoutBreaks_append, withoutBreaks_append, hrest.withoutBreaks_slash,
      isWords_nil.withoutBreaks_slash, dropWhile_slash_append hopens, dropWhile_slash_append hopens]
    exact ofAuthority_under .web scheme
      (hcs.withoutBreaks.mono (List.dropWhile_sublist _).subset) hrest
  | file => exact ofFile_under hcs (hkind ▸ hopens) hrest hhead
  | other =>
    rw [hkind, opensAuthority, decide_eq_false_iff_not] at hopens
    dsimp only
    rw [withoutBreaks_append, withoutBreaks_append, hrest.withoutBreaks_slash,
      isWords_nil.withoutBreaks_slash]
    exact ofOther_under scheme hcs.withoutBreaks hopens hrest hhead

theorem ofScheme_slash (h : (withoutBreaks cs).getLast? ≠ some '@' ∨
      ∃ u, ofScheme scheme (cs ++ ['/']) = .ok u) :
    Alike (ofScheme scheme cs) (ofScheme scheme (cs ++ ['/'])) := by
  rw [ofScheme_eq] at h ⊢
  rw [ofScheme_eq]
  cases hkind : Kind.of scheme with
  | web =>
    rw [hkind] at h
    dsimp only at h ⊢
    rw [withoutBreaks_append, isWords_nil.withoutBreaks_slash] at h ⊢
    cases hall : (withoutBreaks cs).all (isSlash .web) with
    | true =>
      have hnil : (withoutBreaks cs).dropWhile (isSlash .web) = [] :=
        List.dropWhile_eq_nil_iff.mpr (List.all_eq_true.mp hall)
      have hnil' : (withoutBreaks cs ++ ['/']).dropWhile (isSlash .web) = [] := by
        rw [List.dropWhile_append, hnil]
        rfl
      rw [hnil, hnil']
      trivial
    | false =>
      rw [dropWhile_slash_append hall] at h ⊢
      refine ofAuthority_slash .web scheme
        (hcs.withoutBreaks.mono (List.dropWhile_sublist _).subset) (h.imp_left ?_)
      intro hlast hat
      obtain ⟨front, hfront⟩ := List.dropWhile_suffix (isSlash .web) (l := withoutBreaks cs)
      rw [hat] at hfront
      rw [← hfront] at hlast
      simp at hlast
  | file => exact ofFile_slash hcs
  | other =>
    rw [hkind] at h
    dsimp only at h ⊢
    rw [withoutBreaks_append, isWords_nil.withoutBreaks_slash] at h ⊢
    exact ofOther_slash scheme hcs.withoutBreaks h

theorem ofScheme_marked {mark : Char} (hmark : mark = '?' ∨ mark = '#') (rest' : List Char) :
    (ofScheme scheme (cs ++ mark :: rest)).map bare =
      (ofScheme scheme (cs ++ mark :: rest')).map bare := by
  have hbreaks (rest : List Char) :
      withoutBreaks (cs ++ mark :: rest) = withoutBreaks cs ++ mark :: withoutBreaks rest := by
    rw [withoutBreaks_append]
    rcases hmark with rfl | rfl <;> rfl
  rw [ofScheme_eq, ofScheme_eq]
  cases hkind : Kind.of scheme with
  | web =>
    have hslash : isSlash .web mark = false := by rcases hmark with rfl | rfl <;> decide
    have hdrop (rest : List Char) : (withoutBreaks cs ++ mark :: rest).dropWhile (isSlash .web) =
        (withoutBreaks cs).dropWhile (isSlash .web) ++ mark :: rest :=
      dropWhile_append_of_head _ (by rintro c ⟨⟩; exact hslash)
    dsimp only
    rw [hbreaks, hbreaks, hdrop, hdrop]
    exact ofAuthority_marked .web scheme
      (hcs.withoutBreaks.mono (List.dropWhile_sublist _).subset) hmark _
  | file => exact ofFile_marked hcs hmark rest'
  | other =>
    dsimp only
    rw [hbreaks, hbreaks]
    exact ofOther_marked scheme hcs.withoutBreaks hmark _

end Schemes

/-- The scheme of a text, and what stands behind its colon. -/
def schemeOf? (cs : List Char) : Option (String × List Char) := splitScheme? (cs.dropWhile isOuter)

/-- Reads what stands behind a scheme and goes on with a text. -/
def readBehind (rest : List Char) : Option (String × List Char) → Except Fault Url
  | none => .error .relativeWithoutBase
  | some (scheme, behind) => ofScheme scheme (behind ++ rest)

/-- A slash behind the text opens an authority. -/
def opensAt (cs : List Char) : Bool :=
  (schemeOf? cs).any fun p => opensAuthority (Kind.of p.1) p.2

theorem splitScheme?_suffix {cs behind : List Char} {scheme : String}
    (h : splitScheme? cs = some (scheme, behind)) : behind <:+ cs := by
  unfold splitScheme? at h
  dsimp only at h
  split at h
  · rename_i hbehind
    split at h
    · cases h
      exact (List.suffix_cons _ _).trans (hbehind ▸ List.dropWhile_suffix _)
    · cases h
  · cases h

theorem schemeOf?_suffix {cs behind : List Char} {scheme : String}
    (h : schemeOf? cs = some (scheme, behind)) : behind <:+ cs :=
  (splitScheme?_suffix h).trans (List.dropWhile_suffix _)

/-- The scheme of a text is found before what it goes on with. -/
theorem parse_append {cs rest : List Char} (hrest : Delimited rest)
    (hlast : ∀ c ∈ (cs ++ rest).getLast?, isOuter c = false) :
    parse (String.ofList (cs ++ rest)) = readBehind rest (schemeOf? cs) := by
  have houter : (cs ++ rest).dropWhile isOuter = cs.dropWhile isOuter ++ rest :=
    dropWhile_append_of_head cs (hrest.head (by decide) (by decide) (by decide))
  rw [parse, trimmed_eq hlast, houter, splitScheme?_append _ hrest, schemeOf?]
  cases splitScheme? (cs.dropWhile isOuter) <;> rfl

theorem IsWords.not_isOuter {cs rest : List Char} (h : IsWords rest) :
    ∀ c ∈ (cs ++ '/' :: rest).getLast?, isOuter c = false := by
  intro c hc
  rw [List.getLast?_append, List.getLast?_cons, Option.some_or, ← List.getLast?_cons] at hc
  rcases List.mem_cons.mp (List.mem_of_getLast? hc) with rfl | hc
  · decide
  · rcases h c hc with hc | rfl
    · have hbounds := bounds_of_isAlpha hc
      simp only [isOuter, decide_eq_false_iff_not]
      omega
    · decide

section Texts

variable {cs rest : List Char}

/-- **Words behind a slash are added to the path**, unless the slash opens an authority. -/
theorem parse_under (hcs : Unmarked cs) (hopens : opensAt cs = false) (hrest : IsWords rest)
    (hhead : ∀ c ∈ rest.head?, c ≠ '/') :
    parse (String.ofList (cs ++ '/' :: rest)) =
        (parse (String.ofList (cs ++ ['/']))).map (under rest) ∧
      ∀ u, parse (String.ofList (cs ++ ['/'])) = .ok u → u.IsDirectory := by
  rw [parse_append (by simp [Delimited]) hrest.not_isOuter,
    parse_append (by simp [Delimited]) isWords_nil.not_isOuter]
  cases hscheme : schemeOf? cs with
  | none => exact ⟨rfl, by simp [readBehind]⟩
  | some p =>
    rw [opensAt, hscheme] at hopens
    exact ofScheme_under p.1 (hcs.mono (schemeOf?_suffix hscheme).subset) hopens hrest hhead

/-- **A slash at the end leaves the place as it is.** -/
theorem parse_slash (hcs : Unmarked cs) (hlast : ∀ c ∈ cs.getLast?, isOuter c = false)
    (h : cs.getLast? = some '/' ∨ ∃ u, parse (String.ofList (cs ++ ['/'])) = .ok u) :
    Alike (parse (String.ofList cs)) (parse (String.ofList (cs ++ ['/']))) := by
  have hown : parse (String.ofList cs) = readBehind [] (schemeOf? cs) := by
    have hparse := @parse_append cs [] (by simp [Delimited])
    rw [List.append_nil] at hparse
    exact hparse hlast
  rw [parse_append (by simp [Delimited]) isWords_nil.not_isOuter] at h ⊢
  rw [hown]
  cases hscheme : schemeOf? cs with
  | none => trivial
  | some p =>
    rw [hscheme] at h
    have hsuffix : p.2 <:+ cs := schemeOf?_suffix hscheme
    rw [readBehind, List.append_nil]
    refine ofScheme_slash p.1 (hcs.mono hsuffix.subset) (h.imp_left ?_)
    intro hend hat
    obtain ⟨behind, hbehind⟩ := List.getLast?_eq_some_iff.mp hend
    obtain ⟨front, hfront⟩ := hsuffix
    rcases List.eq_nil_or_concat p.2 with hnil | ⟨init, last, hinit⟩
    · rw [hnil] at hat
      cases hat
    · rw [List.concat_eq_append] at hinit
      rw [hinit, hbehind, ← List.append_assoc] at hfront
      have hslash : last = '/' := by simpa using (List.append_inj' hfront rfl).2
      rw [hinit, hslash, withoutBreaks_append] at hat
      have hkept : withoutBreaks ['/'] = ['/'] := by decide
      simp [hkept] at hat

/-- **Any number of slashes at the end leaves the place as it is.** -/
theorem parse_slashes (hcs : Unmarked cs) {dir : Url}
    (hdir : parse (String.ofList (cs ++ ['/'])) = .ok dir) (k : Nat)
    (hlast : ∀ c ∈ (cs ++ List.replicate k '/').getLast?, isOuter c = false) :
    ∃ u, parse (String.ofList (cs ++ List.replicate k '/')) = .ok u ∧ SamePlace u dir := by
  cases k with
  | zero =>
    rw [List.replicate_zero, List.append_nil] at hlast ⊢
    exact (parse_slash hcs hlast (Or.inr ⟨dir, hdir⟩)).exists_left hdir
  | succ k =>
    -- One slash at a time, from the one that is there.
    induction k with
    | zero => exact ⟨dir, hdir, SamePlace.refl dir⟩
    | succ k ih =>
      have hend : (cs ++ List.replicate (k + 1) '/').getLast? = some '/' := by
        rw [List.replicate_succ', ← List.append_assoc, List.getLast?_concat]
      have hunmarked : Unmarked (cs ++ List.replicate (k + 1) '/') := by
        refine hcs.append (isWords_nil.unmarked_slash.mono fun c hc => ?_)
        rw [List.eq_of_mem_replicate hc]
        exact List.mem_cons_self
      have hslash : ∀ c ∈ (cs ++ List.replicate (k + 1) '/').getLast?, isOuter c = false := by
        rw [hend]
        rintro c ⟨⟩
        decide
      obtain ⟨u, hu, hplace⟩ := ih hslash
      obtain ⟨v, hv, hsame⟩ := (parse_slash hunmarked hslash (Or.inl hend)).exists_right hu
      rw [List.append_assoc, ← List.replicate_succ'] at hv
      exact ⟨v, hv, hsame.symm.trans hplace⟩

/-- **What follows a question mark or a number sign is no part of the path.** -/
theorem parse_marked (hcs : Unmarked cs) {mark : Char} (hmark : mark = '?' ∨ mark = '#')
    (rest rest' : List Char) :
    (parse (String.ofList (cs ++ mark :: rest))).map bare =
      (parse (String.ofList (cs ++ mark :: rest'))).map bare := by
  have hparse (rest : List Char) : ∃ rest', parse (String.ofList (cs ++ mark :: rest)) =
      readBehind (mark :: rest') (schemeOf? cs) := by
    obtain ⟨rest', htrimmed⟩ := trimmed_marked cs hmark rest
    refine ⟨rest', ?_⟩
    rw [parse, htrimmed, splitScheme?_append _ (by rintro c ⟨⟩; exact Or.inr hmark), schemeOf?]
    cases splitScheme? (cs.dropWhile isOuter) <;> rfl
  obtain ⟨more, hmore⟩ := hparse rest
  obtain ⟨more', hmore'⟩ := hparse rest'
  rw [hmore, hmore']
  cases hscheme : schemeOf? cs with
  | none => rfl
  | some p =>
    exact ofScheme_marked p.1 (hcs.mono (schemeOf?_suffix hscheme).subset) hmark more'

end Texts

/-! ## 4. Texts without query and fragment -/

section Plain

variable {cs : List Char} {u : Url}

theorem ofAuthority_of_unmarked {kind : Kind} {scheme : String} (hcs : Unmarked cs)
    (hu : ofAuthority kind scheme cs = .ok u) : u.query = none ∧ u.fragment = none := by
  rw [ofAuthority_eq] at hu
  split at hu
  · cases hu
  · cases haddress : readAddress kind scheme (cs.takeWhile (inAuthority kind)) with
    | error fault =>
      rw [haddress] at hu
      cases hu
    | ok a =>
      rw [haddress] at hu
      have hleft := unmarked_left_append hcs haddress
      simp only [Except.map, toUrl_of_unmarked a kind scheme hleft] at hu
      cases hu
      exact ⟨rfl, rfl⟩

theorem ofScheme_of_unmarked {scheme : String} (hcs : Unmarked cs)
    (hu : ofScheme scheme cs = .ok u) : u.query = none ∧ u.fragment = none := by
  rw [ofScheme_eq] at hu
  cases hkind : Kind.of scheme with
  | web =>
    rw [hkind] at hu
    exact ofAuthority_of_unmarked (hcs.withoutBreaks.mono (List.dropWhile_sublist _).subset) hu
  | file =>
    rw [hkind] at hu
    dsimp only at hu
    rw [ofFile_eq] at hu
    cases hplace : filePlace cs with
    | error fault =>
      rw [hplace] at hu
      cases hu
    | ok p =>
      rw [hplace] at hu
      simp only [Except.map, fileUrl_of_unmarked _ _ (hcs.mono (filePlace_subset hplace))] at hu
      cases hu
      exact ⟨rfl, rfl⟩
  | other =>
    rw [hkind] at hu
    dsimp only at hu
    by_cases hpair : ∃ inner, withoutBreaks cs = '/' :: '/' :: inner
    · obtain ⟨inner, hinner⟩ := hpair
      have hunmarked := hcs.withoutBreaks
      rw [hinner] at hu hunmarked
      exact ofAuthority_of_unmarked hunmarked.tail.tail hu
    · rw [ofOther_of_not_authority scheme fun inner h => hpair ⟨inner, h⟩,
        ofPlain_of_unmarked scheme hcs.withoutBreaks] at hu
      cases hu
      exact ⟨rfl, rfl⟩

/-- **A text without question mark and number sign has neither query nor fragment.** -/
theorem parse_of_unmarked (hcs : Unmarked cs) (hu : parse (String.ofList cs) = .ok u) :
    u.query = none ∧ u.fragment = none := by
  have htrimmed : Unmarked (trimmed (String.ofList cs)) := by
    refine hcs.mono fun c hc => ?_
    rw [trimmed, String.toList_ofList, List.mem_reverse] at hc
    exact (List.dropWhile_sublist _).subset
      (List.mem_reverse.mp ((List.dropWhile_sublist _).subset hc))
  rw [parse] at hu
  cases hscheme : splitScheme? (trimmed (String.ofList cs)) with
  | none =>
    rw [hscheme] at hu
    cases hu
  | some p =>
    rw [hscheme] at hu
    exact ofScheme_of_unmarked (htrimmed.mono (splitScheme?_suffix hscheme).subset) hu

end Plain

end CodeAssistant.Url
