/-
# Authorities whose text goes on

The text of a URL is cut at fixed characters before any part of it is read.  The authority ends at
the first slash, question mark or number sign: so what it says (`readAddress`) does not hang on what
is behind it (`ofAuthority_append`), and what is new falls to the path, the query or the fragment.

Words behind a slash go to the path and a directory's URL stays one (`ofAuthority_under`), a slash
at the end changes no more than the slashes at the end of the path (`ofAuthority_slash`), and behind
a question mark or a number sign the path is closed (`ofAuthority_marked`).
-/
import CodeAssistant.Proofs.Directories

namespace CodeAssistant.Url

/-! ## 1. Cutting -/

/-- Nothing, or a text that starts with a character that ends an authority of every kind. -/
def Delimited (cs : List Char) : Prop := ∀ c ∈ cs.head?, c = '/' ∨ c = '?' ∨ c = '#'

/-- A text without query and fragment. -/
def Unmarked (cs : List Char) : Prop := ∀ c ∈ cs, c ≠ '?' ∧ c ≠ '#'

instance (cs : List Char) : Decidable (Unmarked cs) :=
  decidable_of_iff (cs.all fun c => c ≠ '?' && c ≠ '#') <| by simp [Unmarked]

theorem Delimited.head {p : Char → Bool} {rest : List Char} (h : Delimited rest)
    (hslash : p '/' = false) (hquery : p '?' = false) (hfragment : p '#' = false) :
    ∀ c ∈ rest.head?, p c = false := by
  intro c hc
  rcases h c hc with rfl | rfl | rfl
  · exact hslash
  · exact hquery
  · exact hfragment

/-- A blank or a control character, which does not count at the ends of a URL. -/
def isOuter (c : Char) : Bool := c.toNat ≤ 0x20

theorem trimmed_eq {cs : List Char} (h : ∀ c ∈ cs.getLast?, isOuter c = false) :
    trimmed (String.ofList cs) = cs.dropWhile isOuter := by
  have hdef : trimmed (String.ofList cs) =
      ((cs.dropWhile isOuter).reverse.dropWhile isOuter).reverse := by
    rw [trimmed, String.toList_ofList]
    rfl
  rw [hdef, Text.dropWhile_eq_self_of_head?, List.reverse_reverse]
  intro c hc
  rw [List.head?_reverse] at hc
  refine h c ?_
  obtain ⟨front, hfront⟩ := List.dropWhile_suffix isOuter (l := cs)
  rw [← hfront, List.getLast?_append, Option.mem_def.mp hc]
  rfl

/-- Blanks at the end go, and a question mark or a number sign stays with what is in front of it. -/
theorem trimmed_marked (cs : List Char) {mark : Char} (hmark : mark = '?' ∨ mark = '#')
    (rest : List Char) :
    ∃ rest', trimmed (String.ofList (cs ++ mark :: rest)) =
      cs.dropWhile isOuter ++ mark :: rest' := by
  have houter : isOuter mark = false := by rcases hmark with rfl | rfl <;> decide
  have hstart : (cs ++ mark :: rest).dropWhile isOuter = cs.dropWhile isOuter ++ mark :: rest :=
    dropWhile_append_of_head cs (by rintro c ⟨⟩; exact houter)
  have hdef : trimmed (String.ofList (cs ++ mark :: rest)) =
      ((cs.dropWhile isOuter ++ mark :: rest).reverse.dropWhile isOuter).reverse := by
    rw [trimmed, String.toList_ofList, ← hstart]
    rfl
  have hend : (rest.reverse ++ mark :: (cs.dropWhile isOuter).reverse).dropWhile isOuter =
      rest.reverse.dropWhile isOuter ++ mark :: (cs.dropWhile isOuter).reverse :=
    dropWhile_append_of_head _ (by rintro c ⟨⟩; exact houter)
  refine ⟨(rest.reverse.dropWhile isOuter).reverse, ?_⟩
  rw [hdef]
  simp only [List.reverse_append, List.reverse_cons, List.append_assoc, List.cons_append,
    List.nil_append]
  rw [hend]
  simp

theorem splitScheme?_append (cs : List Char) {rest : List Char} (h : Delimited rest) :
    splitScheme? (cs ++ rest) = (splitScheme? cs).map fun p => (p.1, p.2 ++ rest) := by
  have hhead : ∀ c ∈ rest.head?, (isSchemeChar c || isBreak c) = false :=
    h.head (p := fun c => isSchemeChar c || isBreak c) (by decide) (by decide) (by decide)
  unfold splitScheme?
  dsimp only
  rw [takeWhile_append_of_head cs hhead, dropWhile_append_of_head cs hhead]
  generalize withoutBreaks (cs.takeWhile fun c => isSchemeChar c || isBreak c) = name
  generalize cs.dropWhile (fun c => isSchemeChar c || isBreak c) = behind
  cases behind with
  | nil =>
    cases rest with
    | nil => cases name <;> rfl
    | cons c rest =>
      cases name with
      | nil => rfl
      | cons first name => rcases h c rfl with rfl | rfl | rfl <;> rfl
  | cons c behind =>
    cases name with
    | nil => rfl
    | cons first name =>
      rw [List.cons_append]
      by_cases hc : c = ':'
      · subst hc
        by_cases hfirst : first.isAlpha = true <;> simp [hfirst]
      · simp [hc]

theorem Tail.of_unmarked {cs : List Char} (h : Unmarked cs) : Tail.of cs = ⟨cs, none, none⟩ := by
  have hall : ∀ c ∈ cs, (!(decide (c = '?') || decide (c = '#'))) = true := by
    intro c hc
    simpa using h c hc
  unfold Tail.of
  rw [List.takeWhile_eq_self_iff.mpr hall, List.dropWhile_eq_nil_iff.mpr hall]

theorem Tail.path_of_marked {cs : List Char} (h : Unmarked cs) {mark : Char}
    (hmark : mark = '?' ∨ mark = '#') (rest : List Char) :
    (Tail.of (cs ++ mark :: rest)).path = cs := by
  have hall : ∀ c ∈ cs, (!(decide (c = '?') || decide (c = '#'))) = true := by
    intro c hc
    simpa using h c hc
  have hhead : ∀ c ∈ (mark :: rest).head?, (!(decide (c = '?') || decide (c = '#'))) = false := by
    rintro c ⟨⟩
    rcases hmark with rfl | rfl <;> decide
  have hpath : ∀ cs, (Tail.of cs).path =
      cs.takeWhile fun c => !(decide (c = '?') || decide (c = '#')) := by
    intro cs
    unfold Tail.of
    split
    · split <;> rfl
    · rfl
    · rfl
  rw [hpath, takeWhile_append_of_head cs hhead, List.takeWhile_eq_self_iff.mpr hall]

/-- A text with a query or a fragment, cut at the first mark. -/
theorem exists_mark {cs : List Char} (h : ¬ Unmarked cs) :
    ∃ front mark rest, cs = front ++ mark :: rest ∧ Unmarked front ∧ (mark = '?' ∨ mark = '#') := by
  have hnil : Unmarked [] := by simp [Unmarked]
  induction cs with
  | nil => exact absurd hnil h
  | cons c cs ih =>
    by_cases hc : c = '?' ∨ c = '#'
    · exact ⟨[], c, cs, rfl, hnil, hc⟩
    · have hcons {ds : List Char} (hds : Unmarked ds) : Unmarked (c :: ds) :=
        List.forall_mem_cons.mpr ⟨not_or.mp hc, hds⟩
      have hcs : ¬ Unmarked cs := by
        intro hcs
        exact h (hcons hcs)
      obtain ⟨front, mark, rest, rfl, hfront, hmark⟩ := ih hcs
      exact ⟨c :: front, mark, rest, rfl, hcons hfront, hmark⟩

theorem Unmarked.append {cs ds : List Char} (h : Unmarked cs) (h' : Unmarked ds) :
    Unmarked (cs ++ ds) := by
  intro c hc
  exact (List.mem_append.mp hc).elim (h c) (h' c)

theorem Unmarked.mono {cs ds : List Char} (h : Unmarked cs) (hsub : ds ⊆ cs) : Unmarked ds :=
  fun c hc => h c (hsub hc)

theorem Unmarked.tail {c : Char} {cs : List Char} (h : Unmarked (c :: cs)) : Unmarked cs :=
  h.mono (List.subset_cons_self c cs)

theorem IsWords.unmarked_slash {rest : List Char} (h : IsWords rest) :
    Unmarked ('/' :: rest) := by
  intro c hc
  rcases List.mem_cons.mp hc with rfl | hc
  · decide
  · rcases h c hc with hc | rfl
    · exact ⟨ne_of_isAlpha hc (by decide), ne_of_isAlpha hc (by decide)⟩
    · decide

/-! ## 2. What URLs have in common -/

/-- Words added to the path of a URL. -/
def under (rest : List Char) (u : Url) : Url := { u with path := u.path.under rest }

/-- The URL is one of a directory: it has neither query nor fragment, and its path ends in a slash,
behind which words may stand. -/
structure IsDirectory (u : Url) : Prop where
  query : u.query = none
  fragment : u.fragment = none
  path : ∃ front, u.path.write.toList = front ++ ['/'] ∧
    ∀ rest, (u.path.under rest).write.toList = front ++ '/' :: rest

/-- The host that requests go to. -/
def server? (u : Url) : Option Host := u.host.filter (· ≠ .empty)

/-- The URLs go to the same place, and their paths differ in slashes at the end only. -/
structure SamePlace (u v : Url) : Prop where
  scheme : u.scheme = v.scheme
  server : u.server? = v.server?
  port : u.port = v.port
  path : SameDirectory u.path v.path

/-- Both texts are read, and as URLs of one place, or neither is. -/
def Alike : Except Fault Url → Except Fault Url → Prop
  | .ok u, .ok v => SamePlace u v
  | .error _, .error _ => True
  | _, _ => False

/-- The URL without query and fragment. -/
def bare (u : Url) : Url := { u with query := none, fragment := none }

theorem isDirectory_behind {u : Url} {segments : List String} (hquery : u.query = none)
    (hfragment : u.fragment = none) (hpath : u.path = .behind segments []) : u.IsDirectory := by
  refine ⟨hquery, hfragment, written segments, ?_, fun rest => ?_⟩
  · rw [hpath, Path.toList_write_behind]
  · rw [hpath, Path.behind_under, Path.toList_write_behind]

theorem SamePlace.refl (u : Url) : SamePlace u u := ⟨rfl, rfl, rfl, rfl⟩

theorem SamePlace.symm {u v : Url} (h : SamePlace u v) : SamePlace v u :=
  ⟨h.scheme.symm, h.server.symm, h.port.symm, h.path.symm⟩

theorem SamePlace.trans {u v w : Url} (h : SamePlace u v) (h' : SamePlace v w) : SamePlace u w :=
  ⟨h.scheme.trans h'.scheme, h.server.trans h'.server, h.port.trans h'.port, h.path.trans h'.path⟩

theorem Alike.exists_left {x y : Except Fault Url} (h : Alike x y) {v : Url} (hv : y = .ok v) :
    ∃ u, x = .ok u ∧ SamePlace u v := by
  subst hv
  cases x with
  | error fault => cases h
  | ok u => exact ⟨u, rfl, h⟩

theorem Alike.exists_right {x y : Except Fault Url} (h : Alike x y) {u : Url} (hu : x = .ok u) :
    ∃ v, y = .ok v ∧ SamePlace u v := by
  subst hu
  cases y with
  | error fault => cases h
  | ok v => exact ⟨v, rfl, h⟩

/-! ## 3. Authorities -/

/-- What an authority says. -/
structure Address where
  username : String
  password : Option String
  host : Host
  port : Option Nat
  /-- What is left behind a backslash, which belongs to the path. -/
  left : List Char

/-- Reads an authority. -/
def readAddress (kind : Kind) (scheme : String) (authority : List Char) : Except Fault Address :=
  let (credentials, address) := (splitAtSign? authority).getD ([], authority)
  let (username, password) := readCredentials credentials
  match hostOf kind (splitHost false address).1 with
  | .error fault => .error fault
  | .ok host =>
    let port := (splitHost false address).2
    if host = .empty && (!port.isEmpty || username ≠ "" || password.isSome) then .error .emptyHost
    else match readPort (defaultPort? scheme) port with
      | .error fault => .error fault
      | .ok (port, left) => .ok ⟨username, password, host, port, left⟩

/-- The URL with an address and what stands behind it. -/
def Address.toUrl (a : Address) (kind : Kind) (scheme : String) (behind : List Char) : Url :=
  let tail := Tail.of (a.left ++ behind)
  { scheme
    username := a.username
    password := a.password
    host := some a.host
    port := a.port
    path := hostedPath kind tail.path
    query := tail.writtenQuery kind
    fragment := tail.writtenFragment }

/-- A character that belongs to an authority. -/
def inAuthority (kind : Kind) (c : Char) : Bool := !(isSlash kind c || c = '?' || c = '#')

theorem Delimited.head_inAuthority {rest : List Char} (h : Delimited rest) (kind : Kind) :
    ∀ c ∈ rest.head?, inAuthority kind c = false :=
  h.head (by simp [inAuthority, isSlash]) (by simp [inAuthority]) (by simp [inAuthority])

theorem ofAuthority_eq (kind : Kind) (scheme : String) (cs : List Char) :
    ofAuthority kind scheme cs =
      if cs.takeWhile (inAuthority kind) = ['@'] ∧ cs.dropWhile (inAuthority kind) ≠ [] then
        .error .emptyHost
      else (readAddress kind scheme (cs.takeWhile (inAuthority kind))).map
        (·.toUrl kind scheme (cs.dropWhile (inAuthority kind))) := by
  have hin : inAuthority kind = fun c => !(isSlash kind c || c = '?' || c = '#') := rfl
  rw [hin, ofAuthority, readAddress]
  dsimp only
  generalize cs.takeWhile (fun c => !(isSlash kind c || c = '?' || c = '#')) = authority
  generalize cs.dropWhile (fun c => !(isSlash kind c || c = '?' || c = '#')) = behind
  generalize (splitAtSign? authority).getD ([], authority) = parts
  generalize readCredentials parts.1 = credentials
  generalize splitHost false parts.2 = address
  by_cases hbare : authority = ['@'] ∧ behind ≠ []
  · rw [if_pos hbare, if_pos (by simp [hbare])]
  · rw [if_neg hbare, if_neg (by simpa using hbare)]
    cases hostOf kind address.1 with
    | error fault => rfl
    | ok host =>
      dsimp only
      split
      · rfl
      · cases readPort (defaultPort? scheme) address.2 <;> rfl

/-- What an authority says does not hang on what is behind it. -/
theorem ofAuthority_append (kind : Kind) (scheme : String) (cs : List Char) {rest : List Char}
    (h : Delimited rest) :
    ofAuthority kind scheme (cs ++ rest) =
      if cs.takeWhile (inAuthority kind) = ['@'] ∧
          cs.dropWhile (inAuthority kind) ++ rest ≠ [] then .error .emptyHost
      else (readAddress kind scheme (cs.takeWhile (inAuthority kind))).map
        (·.toUrl kind scheme (cs.dropWhile (inAuthority kind) ++ rest)) := by
  rw [ofAuthority_eq, takeWhile_append_of_head cs (h.head_inAuthority kind),
    dropWhile_append_of_head cs (h.head_inAuthority kind)]

theorem splitHost_snd_suffix (inBrackets : Bool) (cs : List Char) :
    (splitHost inBrackets cs).2 <:+ cs := by
  induction cs generalizing inBrackets with
  | nil => exact List.suffix_refl _
  | cons c cs ih =>
    rw [splitHost]
    split
    · exact List.suffix_refl _
    · exact (ih _).trans (List.suffix_cons c cs)

theorem readPort_subset {default port : Option Nat} {cs left : List Char}
    (h : readPort default cs = .ok (port, left)) : left ⊆ cs := by
  unfold readPort at h
  split at h
  · rename_i rest
    dsimp only at h
    have hsub : rest.dropWhile Char.isDigit ⊆ ':' :: rest :=
      List.subset_cons_of_subset _ (List.dropWhile_sublist _).subset
    repeat' split at h
    all_goals cases h
    all_goals exact hsub
  · cases h
    exact List.Subset.refl _

theorem splitAtSign?_subset {cs before behind : List Char}
    (h : splitAtSign? cs = some (before, behind)) : behind ⊆ cs := by
  unfold splitAtSign? at h
  split at h
  · cases h
  · cases h
    intro c hc
    rw [List.mem_reverse] at hc
    exact List.mem_reverse.mp ((List.takeWhile_sublist _).subset hc)

theorem left_subset {kind : Kind} {scheme : String} {authority : List Char} {a : Address}
    (h : readAddress kind scheme authority = .ok a) : a.left ⊆ authority := by
  have haddress : ((splitAtSign? authority).getD ([], authority)).2 ⊆ authority := by
    cases hsplit : splitAtSign? authority with
    | none => exact List.Subset.refl _
    | some parts => exact splitAtSign?_subset hsplit
  unfold readAddress at h
  dsimp only at h
  repeat' split at h
  all_goals cases h
  exact List.Subset.trans (readPort_subset ‹_›)
    (List.Subset.trans (splitHost_snd_suffix _ _).subset haddress)

theorem unmarked_left_append {kind : Kind} {scheme : String} {cs : List Char} {a : Address}
    (hcs : Unmarked cs) (h : readAddress kind scheme (cs.takeWhile (inAuthority kind)) = .ok a) :
    Unmarked (a.left ++ cs.dropWhile (inAuthority kind)) := by
  refine (hcs.mono ?_).append (hcs.mono (List.dropWhile_sublist _).subset)
  exact List.Subset.trans (left_subset h) (List.takeWhile_sublist _).subset

theorem toUrl_of_unmarked (a : Address) (kind : Kind) (scheme : String) {behind : List Char}
    (h : Unmarked (a.left ++ behind)) :
    a.toUrl kind scheme behind = {
      scheme
      username := a.username
      password := a.password
      host := some a.host
      port := a.port
      path := hostedPath kind (a.left ++ behind) } := by
  rw [Address.toUrl, Tail.of_unmarked h]
  rfl

section Authorities

variable (kind : Kind) (scheme : String) {cs rest : List Char} (hcs : Unmarked cs)

include hcs

/-- Words behind a slash are added to the path. -/
theorem ofAuthority_under (hrest : IsWords rest) :
    ofAuthority kind scheme (cs ++ '/' :: rest) =
        (ofAuthority kind scheme (cs ++ ['/'])).map (under rest) ∧
      ∀ u, ofAuthority kind scheme (cs ++ ['/']) = .ok u → u.IsDirectory := by
  rw [ofAuthority_append kind scheme cs (by simp [Delimited]),
    ofAuthority_append kind scheme cs (by simp [Delimited])]
  by_cases hbare : cs.takeWhile (inAuthority kind) = ['@']
  · rw [if_pos ⟨hbare, by simp⟩, if_pos ⟨hbare, by simp⟩]
    exact ⟨rfl, by simp⟩
  · rw [if_neg fun h => hbare h.1, if_neg fun h => hbare h.1]
    cases haddress : readAddress kind scheme (cs.takeWhile (inAuthority kind)) with
    | error fault => exact ⟨rfl, by simp [Except.map]⟩
    | ok a =>
      have hleft := unmarked_left_append hcs haddress
      have hunmarked {rest : List Char} (hrest : IsWords rest) :
          Unmarked (a.left ++ (cs.dropWhile (inAuthority kind) ++ '/' :: rest)) := by
        rw [← List.append_assoc]
        exact hleft.append hrest.unmarked_slash
      simp only [Except.map, toUrl_of_unmarked a kind scheme (hunmarked hrest),
        toUrl_of_unmarked a kind scheme (hunmarked isWords_nil), ← List.append_assoc,
        hostedPath_words kind _ hrest, hostedPath_words kind _ isWords_nil]
      constructor
      · rw [under, Path.behind_under]
      · rintro u ⟨⟩
        exact isDirectory_behind rfl rfl rfl

/-- A slash at the end leaves the place as it is. -/
theorem ofAuthority_slash
    (h : cs ≠ ['@'] ∨ ∃ u, ofAuthority kind scheme (cs ++ ['/']) = .ok u) :
    Alike (ofAuthority kind scheme cs) (ofAuthority kind scheme (cs ++ ['/'])) := by
  rw [ofAuthority_append kind scheme cs (by simp [Delimited])] at h ⊢
  rw [ofAuthority_eq]
  by_cases hbare : cs.takeWhile (inAuthority kind) = ['@']
  · rw [if_pos ⟨hbare, by simp⟩] at h
    have hbehind : cs.dropWhile (inAuthority kind) ≠ [] := by
      intro hnil
      have hwhole := List.takeWhile_append_dropWhile (p := inAuthority kind) (l := cs)
      rw [hbare, hnil, List.append_nil] at hwhole
      rcases h with h | ⟨u, hu⟩
      · exact h hwhole.symm
      · cases hu
    rw [if_pos ⟨hbare, hbehind⟩, if_pos ⟨hbare, by simp⟩]
    trivial
  · rw [if_neg fun h => hbare h.1, if_neg fun h => hbare h.1]
    cases haddress : readAddress kind scheme (cs.takeWhile (inAuthority kind)) with
    | error fault => trivial
    | ok a =>
      have hleft := unmarked_left_append hcs haddress
      have hslash : Unmarked (a.left ++ (cs.dropWhile (inAuthority kind) ++ ['/'])) := by
        rw [← List.append_assoc]
        exact hleft.append (isWords_nil.unmarked_slash)
      simp only [Except.map, toUrl_of_unmarked a kind scheme hleft,
        toUrl_of_unmarked a kind scheme hslash, ← List.append_assoc]
      exact ⟨rfl, rfl, rfl, hostedPath_slash kind _⟩

/-- What follows a question mark or a number sign falls to the query or the fragment. -/
theorem ofAuthority_marked {mark : Char} (hmark : mark = '?' ∨ mark = '#') (rest' : List Char) :
    (ofAuthority kind scheme (cs ++ mark :: rest)).map bare =
      (ofAuthority kind scheme (cs ++ mark :: rest')).map bare := by
  have hdelimited (rest : List Char) : Delimited (mark :: rest) := by
    rintro c ⟨⟩
    exact Or.inr hmark
  rw [ofAuthority_append kind scheme cs (hdelimited rest),
    ofAuthority_append kind scheme cs (hdelimited rest')]
  by_cases hbare : cs.takeWhile (inAuthority kind) = ['@']
  · rw [if_pos ⟨hbare, by simp⟩, if_pos ⟨hbare, by simp⟩]
  · rw [if_neg fun h => hbare h.1, if_neg fun h => hbare h.1]
    cases haddress : readAddress kind scheme (cs.takeWhile (inAuthority kind)) with
    | error fault => rfl
    | ok a =>
      have hleft := unmarked_left_append hcs haddress
      simp only [Except.map, Address.toUrl, bare, ← List.append_assoc,
        Tail.path_of_marked hleft hmark]

end Authorities

end CodeAssistant.Url
