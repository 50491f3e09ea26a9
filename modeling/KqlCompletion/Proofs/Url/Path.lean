import KqlCompletion.Proofs.Text.Percent
import KqlCompletion.Url.Reference
import Mathlib.Data.List.DropRight

/-! Addresses that differ in their path alone. An address of a scheme, a host and a path reads back
as the parts it was written from, so another path in the place of its own changes nothing but the
path; and a path that goes on behind another one keeps that one as it is, unless its own dots lead
out of itself. -/
namespace KqlCompletion.Url

/-- A path that can stand behind a host. -/
def IsRooted (path : List Char) : Prop := path = [] ∨ path.head? = some '/'

theorem IsRooted.append {front back : List Char} (first : IsRooted front) (second : IsRooted back) :
    IsRooted (front ++ back) := by
  cases front with
  | nil => exact second
  | cons c front => exact .inr (first.resolve_left (List.cons_ne_nil c front))

theorem IsRooted.of_isPrefix {front path : List Char} (rooted : IsRooted path)
    (starts : front <+: path) : IsRooted front := by
  cases front with
  | nil => exact .inl rfl
  | cons c front =>
    obtain ⟨rest, rfl⟩ := starts
    exact .inr (rooted.resolve_left (List.cons_ne_nil _ _))

/-- The parts of an address that has a scheme and ends with its path. -/
structure Parts.Plain (parts : Parts) : Prop where
  scheme : parts.scheme ≠ []
  schemeChars : ∀ c ∈ parts.scheme, isSchemeChar c = true
  schemeHead : parts.scheme.head?.all Char.isAlpha = true
  authorityChars : ∀ c ∈ parts.authority, c ≠ '/' ∧ c ≠ '?' ∧ c ≠ '#'
  rooted : IsRooted parts.path
  pathChars : ∀ c ∈ parts.path, c ≠ '?' ∧ c ≠ '#'
  query : parts.query = none
  fragment : parts.fragment = none

section reading

variable {text scheme authority path rest : List Char}

theorem splitScheme_of_eq (split : splitScheme text = (scheme, rest)) (nonempty : scheme ≠ []) :
    text = scheme ++ ':' :: rest ∧ (∀ c ∈ scheme, isSchemeChar c = true) ∧
      scheme.head?.all Char.isAlpha = true := by
  rw [splitScheme] at split
  split at split
  · next rest' behind =>
    split at split
    · next alpha =>
      cases split
      refine ⟨?_, fun c member => List.mem_takeWhile_imp member, alpha⟩
      rw [← behind, List.takeWhile_append_dropWhile]
    · cases split
      exact absurd rfl nonempty
  · cases split
    exact absurd rfl nonempty

theorem splitScheme_append (schemeChars : ∀ c ∈ scheme, isSchemeChar c = true)
    (schemeHead : scheme.head?.all Char.isAlpha = true) (rest : List Char) :
    splitScheme (scheme ++ ':' :: rest) = (scheme, rest) := by
  have colon : isSchemeChar ':' = false := by decide
  rw [splitScheme, List.takeWhile_append_of_pos schemeChars,
    List.dropWhile_append_of_pos schemeChars, List.dropWhile_cons_of_neg (by simp [colon]),
    List.takeWhile_cons_of_neg (by simp [colon])]
  simp only [List.append_nil, schemeHead, if_true]

theorem splitAuthority_of_eq (split : splitAuthority text = (authority, rest))
    (nonempty : authority ≠ []) :
    text = '/' :: '/' :: authority ++ rest ∧ (∀ c ∈ authority, c ≠ '/' ∧ c ≠ '?' ∧ c ≠ '#') ∧
      ∀ c ∈ rest.head?, c = '/' ∨ c = '?' ∨ c = '#' := by
  unfold splitAuthority at split
  split at split
  · next behind =>
    cases split
    refine ⟨?_, ?_, ?_⟩
    · rw [List.cons_append, List.cons_append, List.takeWhile_append_dropWhile]
    · intro c member
      simpa [and_assoc] using List.mem_takeWhile_imp member
    · intro c first
      have stops := List.head?_dropWhile_not
        (fun c : Char => c != '/' && c != '?' && c != '#') behind
      rw [Option.mem_def.1 first] at stops
      simpa [or_iff_not_imp_left] using stops
  · cases split
    exact absurd rfl nonempty

theorem splitAuthority_append (authorityChars : ∀ c ∈ authority, c ≠ '/' ∧ c ≠ '?' ∧ c ≠ '#')
    (rooted : IsRooted path) :
    splitAuthority ('/' :: '/' :: authority ++ path) = (authority, path) := by
  have inside : ∀ c ∈ authority, (c != '/' && c != '?' && c != '#') = true := by
    intro c member
    simpa [and_assoc] using authorityChars c member
  rw [List.cons_append, List.cons_append, splitAuthority, List.takeWhile_append_of_pos inside, List.dropWhile_append_of_pos inside]
  cases path with
  | nil => simp
  | cons c path =>
    have slash : c = '/' := by simpa [IsRooted] using rooted
    simp [slash]

end reading

namespace Parts

variable {parts : Parts}

def front (parts : Parts) : List Char := parts.scheme ++ ':' :: '/' :: '/' :: parts.authority

theorem Plain.text (plain : parts.Plain) : parts.text = parts.front ++ parts.path := by
  rw [Parts.text, front, plain.query, plain.fragment]
  simp [marked]

theorem Plain.front_ends (plain : parts.Plain) (authority : parts.authority ≠ []) :
    ∀ c ∈ parts.front.getLast?, (c == '/') = false := by
  intro c last
  have front : parts.front = (parts.scheme ++ [':', '/', '/']) ++ parts.authority := by
    simp [Parts.front]
  rw [front, List.getLast?_append, List.getLast?_eq_some_getLast authority] at last
  obtain rfl : parts.authority.getLast authority = c := Option.some.inj last
  simpa using (plain.authorityChars _ (List.getLast_mem authority)).1

theorem Plain.withPath (plain : parts.Plain) {path : List Char} (rooted : IsRooted path)
    (pathChars : ∀ c ∈ path, c ≠ '?' ∧ c ≠ '#') : { parts with path }.Plain :=
  { plain with rooted, pathChars }

/-- A text whose parts are a scheme, a host and a path is written of these and of no more. -/
theorem plain_of {text : List Char} (scheme : (of text).scheme ≠ [])
    (authority : (of text).authority ≠ []) (query : (of text).query = none)
    (fragment : (of text).fragment = none) : (of text).Plain ∧ (of text).text = text := by
  obtain ⟨first, rest, split⟩ : ∃ first rest, splitScheme text = (first, rest) := ⟨_, _, rfl⟩
  obtain ⟨second, behind, cut⟩ : ∃ second behind, splitAuthority rest = (second, behind) :=
    ⟨_, _, rfl⟩
  let inPath (c : Char) : Bool := c != '?' && c != '#'
  -- behind the path there would be a query or a fragment
  have ended : behind.dropWhile inPath = [] := by
    cases tail : behind.dropWhile inPath with
    | nil => rfl
    | cons c tail =>
      by_cases mark : c = '?'
      · subst mark
        simp [of, split, cut, inPath, tail] at query
      · simp [of, split, cut, inPath, tail, mark] at fragment
  have inside : ∀ c ∈ behind, inPath c = true := List.dropWhile_eq_nil_iff.1 ended
  have parts : of text = ⟨first, second, behind, none, none⟩ := by
    simp only [of, split, cut]
    rw [ended, List.takeWhile_eq_self_iff.2 inside]
    rfl
  rw [parts] at scheme authority ⊢
  obtain ⟨whole, schemeChars, schemeHead⟩ := splitScheme_of_eq split scheme
  obtain ⟨written, authorityChars, stops⟩ := splitAuthority_of_eq cut authority
  have pathChars : ∀ c ∈ behind, c ≠ '?' ∧ c ≠ '#' := by
    intro c member
    simpa [inPath] using inside c member
  have rooted : IsRooted behind := by
    cases behind with
    | nil => exact .inl rfl
    | cons c behind =>
      have plain := pathChars c List.mem_cons_self
      have slash := (stops c rfl).resolve_right (not_or.2 plain)
      exact .inr (congrArg some slash)
  have plain : Parts.Plain ⟨first, second, behind, none, none⟩ :=
    ⟨scheme, schemeChars, schemeHead, authorityChars, rooted, pathChars, rfl, rfl⟩
  refine ⟨plain, ?_⟩
  rw [plain.text, front, whole, written]
  simp

theorem Plain.of_text (plain : parts.Plain) : of parts.text = parts := by
  obtain ⟨scheme, authority, path, query, fragment⟩ := parts
  obtain rfl : query = none := plain.query
  obtain rfl : fragment = none := plain.fragment
  have inside : ∀ c ∈ path, (c != '?' && c != '#') = true := by
    intro c member
    simpa using plain.pathChars c member
  have written : Parts.text ⟨scheme, authority, path, none, none⟩ =
      scheme ++ ':' :: ('/' :: '/' :: authority ++ path) := by
    rw [plain.text, front]
    simp
  rw [written, of, splitScheme_append plain.schemeChars plain.schemeHead]
  dsimp only
  rw [splitAuthority_append plain.authorityChars plain.rooted]
  dsimp only
  rw [List.takeWhile_eq_self_iff.2 inside, List.dropWhile_eq_nil_iff.2 inside]
  rfl

end Parts

theorem rdropWhile_append {α : Type} {p : α → Bool} {front : List α}
    (stays : ∀ c ∈ front.getLast?, p c = false) (back : List α) :
    (front ++ back).rdropWhile p = front ++ back.rdropWhile p := by
  induction back using List.reverseRecOn with
  | nil =>
    rw [List.append_nil, List.rdropWhile_nil, List.append_nil, List.rdropWhile_eq_self_iff]
    intro nonempty
    rw [stays _ (List.getLast?_eq_some_getLast nonempty)]
    exact Bool.false_ne_true
  | append_singleton back c ih =>
    rw [← List.append_assoc, List.rdropWhile_concat, List.rdropWhile_concat, ih]
    split
    · rfl
    · exact List.append_assoc front back [c]

section segments

variable {kept segments : List (List Char)} {path back : List Char}

theorem resolveDots_append (kept front back : List (List Char)) :
    resolveDots kept (front ++ back) = resolveDots (resolveDots kept front).reverse back := by
  fun_induction resolveDots kept front with
  | case1 kept => rw [List.nil_append, List.reverse_reverse]
  | case2 kept segment segments single ih => rw [List.cons_append, resolveDots, if_pos single, ih]
  | case3 kept segment segments single double ih =>
    rw [List.cons_append, resolveDots, if_neg single, if_pos double, ih]
  | case4 kept segment segments single double ih =>
    rw [List.cons_append, resolveDots, if_neg single, if_neg double, ih]

theorem resolveDots_of_plain (single : ['.'] ∉ segments) (double : ['.', '.'] ∉ segments)
    (kept : List (List Char)) : resolveDots kept segments = kept.reverse ++ segments := by
  induction segments generalizing kept with
  | nil => simp [resolveDots]
  | cons segment segments ih =>
    rw [List.mem_cons, not_or] at single double
    rw [resolveDots, if_neg (by simpa using Ne.symm single.1),
      if_neg (by simpa using Ne.symm double.1), ih single.2 double.2]
    simp

/-- The empty segment in front of the root is never taken away. -/
theorem head?_resolveDots (root : kept.getLast? = some []) (segments : List (List Char)) :
    (resolveDots kept segments).head? = some [] := by
  fun_induction resolveDots kept segments with
  | case1 kept => rw [List.head?_reverse, root]
  | case2 kept segment segments single ih => exact ih root
  | case3 kept segment segments single double ih =>
    -- what is taken away is the last segment kept, and that is the first one only at the root
    refine ih ?_
    split
    · exact root
    · next more =>
      cases kept with
      | nil => cases root
      | cons last kept =>
        cases kept with
        | nil => exact absurd root (by simpa using more)
        | cons other kept => simpa using root
  | case4 kept segment segments single double ih =>
    refine ih ?_
    cases kept with
    | nil => cases root
    | cons last kept => simpa using root

theorem resolveDots_of_slashes {text : List Char} (slashes : ∀ c ∈ text, c = '/')
    (kept : List (List Char)) :
    resolveDots kept (text.splitOn '/') = kept.reverse ++ text.splitOn '/' := by
  have empty : ∀ segment ∈ text.splitOn '/', segment = [] := by
    induction text with
    | nil => simp
    | cons c text ih =>
      rw [List.forall_mem_cons] at slashes
      simpa [List.splitOn_cons_eq_if_modifyHead, slashes.1] using ih slashes.2
  refine resolveDots_of_plain ?_ ?_ kept
  · exact fun member => absurd (empty _ member) (List.cons_ne_nil _ _)
  · exact fun member => absurd (empty _ member) (List.cons_ne_nil _ _)

theorem joinSegments_cons (segment : List Char) (nonempty : segments ≠ []) :
    joinSegments (segment :: segments) = segment ++ '/' :: joinSegments segments := by
  rw [joinSegments, List.intercalate_cons_of_ne_nil nonempty, List.append_assoc]
  rfl

theorem joinSegments_append {front back : List (List Char)} (first : front ≠ [])
    (second : back ≠ []) :
    joinSegments (front ++ back) = joinSegments front ++ '/' :: joinSegments back := by
  induction front with
  | nil => exact absurd rfl first
  | cons segment front ih =>
    rw [List.cons_append, joinSegments_cons segment (List.append_ne_nil_of_right_ne_nil _ second)]
    cases front with
    | nil => simp [joinSegments]
    | cons other front =>
      rw [ih (List.cons_ne_nil _ _), joinSegments_cons segment (List.cons_ne_nil _ _)]
      simp

theorem encoded_append (safe : Char → Bool) (front back : List Char) :
    encoded safe (front ++ back) = encoded safe front ++ encoded safe back := by
  rw [encoded, Text.Percent.encode_append, String.ofList_append]
  rfl

theorem encoded_of_safe {safe : Char → Bool} {text : List Char}
    (kept : ∀ c ∈ text, safe c = true) : encoded safe text = String.ofList text := by
  rw [encoded, Text.Percent.encode_of_kept kept]

theorem pathSafe_of_isUnreserved {c : Char} (kept : Text.Percent.isUnreserved c = true) :
    pathSafe c = true := by
  have ascii : ∀ n < 0x80, Text.Percent.isUnreserved (Char.ofNat n) = true →
      pathSafe (Char.ofNat n) = true := by decide
  have own := ascii c.toNat (Text.Percent.toNat_lt_of_isUnreserved kept)
  rw [Char.ofNat_toNat] at own
  exact own kept

/-- What may stand for itself in a path neither ends it nor is unprintable. -/
theorem inPath_of_pathSafe {c : Char} (safe : pathSafe c = true) :
    c ≠ '?' ∧ c ≠ '#' ∧ isUnprintable c = false := by
  refine ⟨?_, ?_, ?_⟩
  · rintro rfl
    cases safe
  · rintro rfl
    cases safe
  · simp only [pathSafe, isVisibleBut, Bool.and_eq_true, decide_eq_true_eq] at safe
    obtain ⟨⟨low, high⟩, -⟩ := safe
    simp only [isUnprintable, Bool.or_eq_false_iff, decide_eq_false_iff_not, beq_eq_false_iff_ne]
    omega

def normalPath (path : List Char) : String :=
  encoded pathSafe (joinSegments (resolveDots [] (path.splitOn '/')))

theorem splitOn_of_isRooted (rooted : IsRooted path) :
    ∃ segments, path.splitOn '/' = [] :: segments := by
  cases path with
  | nil => exact ⟨[], rfl⟩
  | cons c path =>
    have slash : c = '/' := by simpa [IsRooted] using rooted
    exact ⟨path.splitOn '/', by simp [List.splitOn_cons_eq_if_modifyHead, slash]⟩

/-- What is put behind a path stays behind it if its own segments resolve to segments behind any
others. -/
theorem normalPath_append (rooted : IsRooted path) (nonempty : segments ≠ [])
    (resolved : ∀ kept, resolveDots kept (back.splitOn '/') = kept.reverse ++ segments) :
    normalPath (path ++ '/' :: back) =
      normalPath path ++ encoded pathSafe ('/' :: joinSegments segments) := by
  have front : resolveDots [] (path.splitOn '/') ≠ [] := by
    obtain ⟨others, split⟩ := splitOn_of_isRooted rooted
    have root : resolveDots [] ([] :: others) = resolveDots [[]] others := rfl
    have head : (resolveDots [[]] others).head? = some [] := head?_resolveDots rfl others
    rw [split, root]
    intro empty
    rw [empty] at head
    cases head
  rw [normalPath, List.splitOn_append_cons_self, resolveDots_append, resolved, List.reverse_reverse,
    joinSegments_append front nonempty, encoded_append]
  rfl

theorem normalPath_append_slashes (rooted : IsRooted path) {slashes : List Char}
    (only : ∀ c ∈ slashes, c = '/') :
    normalPath (path ++ slashes) = normalPath path ++ String.ofList slashes := by
  cases slashes with
  | nil => rw [List.append_nil, String.ofList_nil, String.append_empty]
  | cons c slashes =>
    rw [List.forall_mem_cons] at only
    obtain ⟨rfl, only⟩ := only
    rw [normalPath_append rooted (List.splitOn_ne_nil '/' slashes)
      (resolveDots_of_slashes only), joinSegments, List.intercalate_splitOn, encoded_of_safe]
    rw [List.forall_mem_cons]
    exact ⟨by decide, fun c member => only c member ▸ (by decide)⟩

end segments

/-- What makes the parts of an address with a host that address. -/
structure Parts.Makes (parts : Parts) (url : Url) : Prop where
  scheme : url.scheme = (Text.asciiLower (String.ofList parts.scheme)).shown
  userinfo : url.userinfo = encoded userinfoSafe (splitHost parts.authority).1
  host : normalHost (splitHost parts.authority).2.1 = .ok url.host
  portNumber : normalPortNumber (String.ofList parts.scheme) (splitHost parts.authority).2.2 =
    .ok url.portNumber
  rooted : IsRooted parts.path
  path : url.path = normalPath parts.path
  query : url.query = parts.query.map (encoded querySafe)
  fragment : url.fragment = parts.fragment.map (encoded fragmentSafe)

theorem checkPath_eq_ok_iff {hasScheme : Bool} {path : List Char} :
    checkPath hasScheme true path = .ok () ↔ IsRooted path := by
  rw [checkPath, if_pos rfl, IsRooted]
  cases path with
  | nil => simp
  | cons c path => by_cases slash : c = '/' <;> simp [slash]

theorem ofParts_eq_ok_iff {parts : Parts} {url : Url} (named : url.host ≠ "") :
    ofParts parts = .ok url ↔ parts.Makes url := by
  constructor
  · intro made
    rw [ofParts] at made
    dsimp only at made
    cases host : normalHost (splitHost parts.authority).2.1 with
    | error fault => rw [host] at made; cases made
    | ok name =>
      cases number : normalPortNumber (String.ofList parts.scheme)
          (splitHost parts.authority).2.2 with
      | error fault => rw [host, number] at made; cases made
      | ok n =>
        rw [host, number] at made
        dsimp only [bind, Except.bind] at made
        split at made
        · cases made
        · next checked =>
          cases made
          -- the host alone makes an authority, so the path is checked and resolved
          have authority : (!(splitHost parts.authority).1.isEmpty || name != "" || n.isSome) =
              true := by simp [named]
          rw [authority] at checked ⊢
          refine ⟨rfl, rfl, host, number, checkPath_eq_ok_iff.1 checked, ?_, rfl, rfl⟩
          rw [normalPath, Bool.or_true, if_pos rfl]
  · intro makes
    have authority : (!(splitHost parts.authority).1.isEmpty || url.host != "" ||
        url.portNumber.isSome) = true := by simp [named]
    rw [ofParts]
    dsimp only
    rw [makes.host, makes.portNumber]
    dsimp only [bind, Except.bind]
    rw [authority, checkPath_eq_ok_iff.2 makes.rooted, Bool.or_true, if_pos rfl]
    have whole : (⟨url.scheme, url.userinfo, url.host, url.portNumber, url.path, url.query,
      url.fragment⟩ : Url) = url := rfl
    rw [makes.scheme, makes.userinfo, makes.path, makes.query, makes.fragment] at whole
    exact congrArg Except.ok whole

theorem Parts.Makes.authority {parts : Parts} {url : Url} (makes : parts.Makes url)
    (named : url.host ≠ "") : parts.authority ≠ [] := by
  intro empty
  have host := makes.host
  rw [empty] at host
  exact named (Except.ok.inj host).symm

/-- Another path in the place of its own changes nothing else of an address. -/
theorem Parts.Makes.withPath {parts : Parts} {url : Url} (makes : parts.Makes url)
    {path : List Char} (rooted : IsRooted path) :
    { parts with path }.Makes { url with path := normalPath path } :=
  { makes with rooted, path := rfl }

theorem unprintable?_eq_none_iff {text : List Char} :
    unprintable? text = none ↔ ∀ c ∈ text, isUnprintable c = false := by
  rw [unprintable?, Option.map_eq_none_iff, List.findIdx?_eq_none_iff]

theorem parse_eq_ok_iff {text : String} {url : Url} :
    parse text = .ok url ↔ text.length ≤ lengthLimit ∧
      (∀ c ∈ text.toList, isUnprintable c = false) ∧ ofParts (Parts.of text.toList) = .ok url := by
  rw [parse, ← unprintable?_eq_none_iff, ← Nat.not_lt, ← String.length_toList]
  split
  · next long => simp [long]
  · next short =>
    cases unprintable? text.toList with
    | none => simp [short]
    | some fault => simp

theorem parse_of_long {text : String} (long : lengthLimit < text.length) :
    parse text = .error .tooLong := by
  rw [← String.length_toList] at long
  rw [parse]
  exact if_pos long

structure IsPlain (url : Url) : Prop where
  scheme : url.scheme ≠ ""
  host : url.host ≠ ""
  query : url.query = none
  fragment : url.fragment = none

theorem Parts.Makes.plain {text : List Char} {url : Url} (makes : (Parts.of text).Makes url)
    (plain : url.IsPlain) : (Parts.of text).Plain ∧ (Parts.of text).text = text := by
  refine Parts.plain_of ?_ (makes.authority plain.host) ?_ ?_
  · intro empty
    have scheme := makes.scheme
    rw [empty] at scheme
    exact plain.scheme scheme
  · exact Option.map_eq_none_iff.1 (makes.query.symm.trans plain.query)
  · exact Option.map_eq_none_iff.1 (makes.fragment.symm.trans plain.fragment)

/-- What is known of the parts of an address that has a scheme, a host and a path only. -/
structure Reads (address : String) (parts : Parts) (url : Url) : Prop where
  plain : parts.Plain
  written : parts.text = address.toList
  makes : parts.Makes url
  printable : ∀ c ∈ address.toList, isUnprintable c = false
  short : address.length ≤ lengthLimit

theorem reads_of_parse {address : String} {url : Url} (parsed : parse address = .ok url)
    (plain : url.IsPlain) : Reads address (Parts.of address.toList) url := by
  obtain ⟨short, printable, made⟩ := parse_eq_ok_iff.1 parsed
  have makes := (ofParts_eq_ok_iff plain.host).1 made
  obtain ⟨parts, written⟩ := makes.plain plain
  exact ⟨parts, written, makes, printable, short⟩

namespace Reads

variable {address text : String} {parts : Parts} {url : Url} {path : List Char}

theorem pathChars (reads : Reads address parts url) :
    ∀ c ∈ parts.path, c ≠ '?' ∧ c ≠ '#' ∧ isUnprintable c = false := by
  intro c member
  obtain ⟨question, hash⟩ := reads.plain.pathChars c member
  refine ⟨question, hash, reads.printable c ?_⟩
  rw [← reads.written, reads.plain.text]
  exact List.mem_append_right _ member

/-- With another path in the place of its own, an address reads as the same one but for the
path. -/
theorem parse_withPath (reads : Reads address parts url) (named : url.host ≠ "")
    (rooted : IsRooted path) (pathChars : ∀ c ∈ path, c ≠ '?' ∧ c ≠ '#' ∧ isUnprintable c = false)
    (written : text.toList = parts.front ++ path) :
    parse text = if text.length ≤ lengthLimit then .ok { url with path := normalPath path }
      else .error .tooLong := by
  have others := reads.plain.withPath rooted fun c member =>
    ⟨(pathChars c member).1, (pathChars c member).2.1⟩
  have same : text.toList = { parts with path }.text := written.trans others.text.symm
  split
  · next short =>
    refine parse_eq_ok_iff.2 ⟨short, ?_, ?_⟩
    · have printable := reads.printable
      rw [← reads.written, reads.plain.text] at printable
      rw [written]
      intro c member
      rcases List.mem_append.1 member with front | behind
      · exact printable c (List.mem_append_left _ front)
      · exact (pathChars c behind).2.2
    · rw [same, others.of_text]
      have host : ({ url with path := normalPath path } : Url).host ≠ "" := named
      exact (ofParts_eq_ok_iff host).2 (reads.makes.withPath rooted)
  · next long => exact parse_of_long (Nat.lt_of_not_le long)

end Reads

/-- What is written behind an address goes on from its path. -/
theorem parse_append {address back : String} {url : Url} {segments : List (List Char)}
    (parsed : parse address = .ok url) (plain : url.IsPlain)
    (safe : ∀ c ∈ back.toList, pathSafe c = true) (nonempty : segments ≠ [])
    (resolved : ∀ kept, resolveDots kept (back.toList.splitOn '/') = kept.reverse ++ segments) :
    parse (address ++ ("/" ++ back)) =
      if (address ++ ("/" ++ back)).length ≤ lengthLimit then
        .ok { url with path := url.path ++ encoded pathSafe ('/' :: joinSegments segments) }
      else .error .tooLong := by
  have reads := reads_of_parse parsed plain
  have rooted := reads.plain.rooted
  have path := reads.makes.path
  generalize Parts.of address.toList = parts at reads rooted path
  rw [path, ← normalPath_append rooted nonempty resolved]
  refine reads.parse_withPath plain.host (rooted.append (.inr rfl)) ?_ ?_
  · intro c member
    rcases List.mem_append.1 member with front | behind
    · exact reads.pathChars c front
    · rcases List.mem_cons.1 behind with rfl | behind
      · decide
      · exact inPath_of_pathSafe (safe c behind)
  · rw [String.toList_append, ← reads.written, reads.plain.text]
    simp

/-- Without the slashes at its end, an address has a path without them. -/
theorem parse_without_slashes {address : String} {url : Url} (parsed : parse address = .ok url)
    (plain : url.IsPlain) :
    ∃ base slashes, parse (String.ofList (address.toList.rdropWhile (· == '/'))) = .ok base ∧
      url = { base with path := base.path ++ slashes } ∧ ∀ c ∈ slashes.toList, c = '/' := by
  have reads := reads_of_parse parsed plain
  generalize Parts.of address.toList = parts at reads
  let path := parts.path.rdropWhile (· == '/')
  let slashes := parts.path.rtakeWhile (· == '/')
  have whole : path ++ slashes = parts.path := List.rdropWhile_append_rtakeWhile
  have written : address.toList.rdropWhile (· == '/') = parts.front ++ path := by
    have ends := reads.plain.front_ends (reads.makes.authority plain.host)
    rw [← reads.written, reads.plain.text, rdropWhile_append ends]
  have starts : path <+: parts.path := List.rdropWhile_prefix _ _
  have rooted : IsRooted path := reads.plain.rooted.of_isPrefix starts
  have only : ∀ c ∈ slashes, c = '/' := by
    intro c member
    simpa using List.mem_rtakeWhile_imp member
  have path_eq : url.path = normalPath path ++ String.ofList slashes := by
    rw [reads.makes.path, ← whole, normalPath_append_slashes rooted only]
  have fits : (String.ofList (address.toList.rdropWhile (· == '/'))).length ≤ lengthLimit := by
    rw [String.length_ofList]
    refine (List.rdropWhile_prefix _ _).length_le.trans ?_
    rw [String.length_toList]
    exact reads.short
  refine ⟨{ url with path := normalPath path }, String.ofList slashes, ?_, ?_, ?_⟩
  · rw [reads.parse_withPath plain.host rooted, if_pos fits]
    · exact fun c member => reads.pathChars c (starts.subset member)
    · rw [String.toList_ofList, written]
  · rw [← path_eq]
  · rw [String.toList_ofList]
    exact only

end KqlCompletion.Url
