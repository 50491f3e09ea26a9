import KqlCompletion.Proofs.Url.Path

/-! User information in addresses. It stands in front of the host, so it stays what it is whatever
path comes behind. -/
namespace KqlCompletion.Url

/-- User information as it is written, whether or not the text is an address. -/
def userinfoIn (text : String) : String :=
  String.ofList (splitHost (Parts.of text.toList).authority).1

theorem userinfo_of_ofParts {parts : Parts} {url : Url} (made : ofParts parts = .ok url) :
    url.userinfo = encoded userinfoSafe (splitHost parts.authority).1 := by
  simp only [ofParts, bind, Except.bind, pure, Except.pure] at made
  split at made
  · cases made
  split at made
  · cases made
  split at made
  · cases made
  · cases made
    rfl

theorem userinfo_of_parse {text : String} {url : Url} (parsed : parse text = .ok url)
    (none : userinfoIn text = "") : url.userinfo = "" := by
  obtain ⟨-, -, made⟩ := parse_eq_ok_iff.1 parsed
  have empty : (splitHost (Parts.of text.toList).authority).1 = [] := by
    simpa [userinfoIn] using none
  rw [userinfo_of_ofParts made, empty]
  rfl

section authority

variable {text path : List Char}

theorem authority_of (text : List Char) :
    (Parts.of text).authority = (splitAuthority (splitScheme text).2).1 := rfl

theorem splitScheme_append_rooted (text : List Char) (rooted : IsRooted path) :
    splitScheme (text ++ path) = ((splitScheme text).1, (splitScheme text).2 ++ path) := by
  have stops : path.takeWhile isSchemeChar = [] ∧ path.dropWhile isSchemeChar = path := by
    cases path with
    | nil => simp
    | cons c path =>
      obtain rfl : c = '/' := by simpa [IsRooted] using rooted
      have slash : isSchemeChar '/' = false := by decide
      simp [slash]
  simp only [splitScheme, List.takeWhile_append, List.dropWhile_append]
  cases tail : text.dropWhile isSchemeChar with
  | nil =>
    rcases path with _ | ⟨c, path⟩
    · simp
    · obtain rfl : c = '/' := by simpa [IsRooted] using rooted
      simp [stops]
  | cons c tail =>
    have shorter : (text.takeWhile isSchemeChar).length ≠ text.length := by
      have whole := congrArg List.length (List.takeWhile_append_dropWhile (p := isSchemeChar)
        (l := text))
      rw [tail, List.length_append, List.length_cons] at whole
      omega
    by_cases colon : c = ':'
    · subst colon
      by_cases alpha : (text.takeWhile isSchemeChar).head?.all Char.isAlpha = true <;>
        simp [shorter, alpha]
    · simp [colon]

theorem splitScheme_suffix (text : List Char) : (splitScheme text).2 <:+ text := by
  rw [splitScheme]
  split
  · next rest behind =>
    split
    · exact (List.suffix_cons ':' rest).trans (behind ▸ List.dropWhile_suffix _)
    · exact List.suffix_refl _
  · exact List.suffix_refl _

/-- A path ends what stands between two slashes and the next, and makes none of its own. -/
theorem fst_splitAuthority_append (rooted : IsRooted path) (bare : (splitAuthority path).1 = [])
    (last : ∀ c ∈ text.getLast?, c ≠ '/') :
    (splitAuthority (text ++ path)).1 = (splitAuthority text).1 := by
  rcases text with _ | ⟨c, _ | ⟨d, rest⟩⟩
  · exact bare
  · have plain : c ≠ '/' := last c rfl
    simp [splitAuthority, plain]
  · by_cases slashes : c = '/' ∧ d = '/'
    · obtain ⟨rfl, rfl⟩ := slashes
      simp only [List.cons_append, splitAuthority, List.takeWhile_append]
      split
      · next whole =>
        have all := (List.takeWhile_prefix _).eq_of_length whole
        rcases path with _ | ⟨c, path⟩
        · simpa using all.symm
        · obtain rfl : c = '/' := by simpa [IsRooted] using rooted
          simpa using all.symm
      · rfl
    · simp only [not_and] at slashes
      by_cases first : c = '/'
      · simp [splitAuthority, first, slashes first]
      · simp [splitAuthority, first]

theorem authority_append (rooted : IsRooted path) (bare : (splitAuthority path).1 = [])
    (last : ∀ c ∈ text.getLast?, c ≠ '/') :
    (Parts.of (text ++ path)).authority = (Parts.of text).authority := by
  rw [authority_of, authority_of, splitScheme_append_rooted text rooted]
  apply fst_splitAuthority_append rooted bare
  obtain ⟨front, whole⟩ := splitScheme_suffix text
  intro c ends
  refine last c ?_
  rw [← whole, List.getLast?_append, Option.mem_def.1 ends]
  rfl

theorem bare_of_slashes (slashes : ∀ c ∈ path, c = '/') :
    IsRooted path ∧ (splitAuthority path).1 = [] := by
  rcases path with _ | ⟨c, _ | ⟨d, _ | ⟨e, path⟩⟩⟩ <;>
    simp_all [splitAuthority, IsRooted]

end authority
end KqlCompletion.Url
