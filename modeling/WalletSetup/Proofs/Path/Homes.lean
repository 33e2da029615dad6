import WalletSetup.Proofs.Path.NormalForm

/-! Paths below home directories. Whatever slashes a home directory ends in and whatever slashes
stand before the rest, the expanded path is the normal form of the two put together. -/

set_option autoImplicit false

namespace WalletSetup.Path

open WalletSetup.Text

def NotBare (cs : List Char) : Prop := ∃ c ∈ cs, c ≠ '/'

section Beneath

variable {cs : List Char}

theorem leadingSlashes_append (some : NotBare cs) (more : List Char) :
    leadingSlashes (cs ++ more) = leadingSlashes cs := by
  have leading : (cs ++ more).takeWhile (· = '/') = cs.takeWhile (· = '/') := by
    obtain ⟨c, inside, other⟩ := some
    obtain ⟨n, body, rfl, before, -, start⟩ := exists_leading cs
    rw [before]
    cases body with
    | nil =>
      rw [List.append_nil] at inside
      exact absurd (List.eq_of_mem_replicate inside) other
    | cons d rest =>
      rw [List.append_assoc, takeWhile_slash]
      exact start
  rw [leadingSlashes, leading, leadingSlashes]

theorem components_append_slashes (cs : List Char) (n : Nat) :
    components (cs ++ List.replicate n '/') = components cs := by
  cases n with
  | zero => rw [List.replicate_zero, List.append_nil]
  | succ n =>
    have nothing := components_replicate n []
    rw [List.append_nil] at nothing
    rw [List.replicate_succ, components_append, nothing]
    exact List.append_nil _

theorem ofString_beneath {directory : String} (some : NotBare directory.toList) (name : String) :
    Parts.ofString (beneath directory name) = ⟨leadingSlashes directory.toList,
      components directory.toList ++ components name.toList⟩ := by
  rcases beneath_cases directory name with ⟨empty, -⟩ | ⟨above, ends, whole⟩
  · rw [empty] at some
    obtain ⟨c, inside, -⟩ := some
    exact nomatch inside
  · have slashes : ∃ n, directory.toList = above ++ List.replicate n '/' := by
      rcases ends with ends | ends
      · exact ⟨1, ends⟩
      · exact ⟨0, by rw [ends, List.replicate_zero, List.append_nil]⟩
    obtain ⟨n, ends⟩ := slashes
    have filled : NotBare above := by
      obtain ⟨c, inside, other⟩ := some
      rw [ends, List.mem_append] at inside
      rcases inside with inside | slash
      · exact ⟨c, inside, other⟩
      · exact absurd (List.eq_of_mem_replicate slash) other
    rw [Parts.ofString, Parts.ofChars, whole, ends, components_append, components_append_slashes,
      leadingSlashes_append filled, leadingSlashes_append filled]

end Beneath

section Home

variable {home : List Char}

theorem exists_homePath (some : NotBare home) :
    NotBare (homePath home) ∧ ∃ n, home = homePath home ++ List.replicate n '/' := by
  obtain ⟨n, body, whole, -, behind, -⟩ := exists_leading home.reverse
  have same : home = body.reverse ++ List.replicate n '/' := by
    rw [← List.reverse_reverse home, whole, List.reverse_append, List.reverse_replicate]
  have filled : NotBare body.reverse := by
    obtain ⟨c, inside, other⟩ := some
    rw [same, List.mem_append] at inside
    rcases inside with inside | slash
    · exact ⟨c, inside, other⟩
    · exact absurd (List.eq_of_mem_replicate slash) other
  have cut : homePath home = body.reverse := by
    rw [homePath, behind]
    split
    · next empty =>
      rw [empty] at filled
      obtain ⟨c, inside, -⟩ := filled
      exact nomatch inside
    · rfl
  rw [cut]
  exact ⟨filled, n, same⟩

end Home

/-- A text that starts in somebody's home: the name of the user, slashes, and what lies below. -/
structure InHome (cs user slashes below : List Char) : Prop where
  whole : cs = '~' :: (user ++ (slashes ++ below))
  noSlash : '/' ∉ user
  onlySlashes : ∀ c ∈ slashes, c = '/'
  start : below.head? ≠ some '/'
  parted : slashes = [] → below = []

section Expand

variable {env : Environment} {path : String} {cs user slashes below : List Char}

theorem exists_inHome (tail : List Char) :
    ∃ user slashes below, InHome ('~' :: tail) user slashes below := by
  refine ⟨tail.takeWhile (· ≠ '/'), (tail.dropWhile (· ≠ '/')).takeWhile (· = '/'),
    (tail.dropWhile (· ≠ '/')).dropWhile (· = '/'), ?_, ?_, ?_, ?_, ?_⟩
  · rw [List.takeWhile_append_dropWhile, List.takeWhile_append_dropWhile]
  · intro inside
    simpa using List.all_eq_true.1 List.all_takeWhile _ inside
  · intro c inside
    simpa using List.all_eq_true.1 List.all_takeWhile _ inside
  · exact fun first => absurd (head?_dropWhile first) (by decide)
  · intro none
    cases behind : tail.dropWhile (· ≠ '/') with
    | nil => rfl
    | cons c rest =>
      have first : c ∈ (tail.dropWhile (· ≠ '/')).head? := by rw [behind]; rfl
      have slash : c = '/' := by simpa using head?_dropWhile first
      rw [behind, slash] at none
      simp at none

theorem InHome.cut (inHome : InHome cs user slashes below) :
    (user ++ (slashes ++ below)).takeWhile (· ≠ '/') = user ∧
      ((user ++ (slashes ++ below)).dropWhile (· ≠ '/')).dropWhile (· = '/') = below := by
  have named : ∀ c ∈ user, decide (c ≠ '/') = true := by
    intro c inside
    simpa using fun slash : c = '/' => inHome.noSlash (slash ▸ inside)
  have slashed : ∀ c ∈ slashes, decide (c = '/') = true := by
    simpa using inHome.onlySlashes
  rw [List.takeWhile_append_of_pos named, List.dropWhile_append_of_pos named]
  have stop : (slashes ++ below).takeWhile (· ≠ '/') = [] ∧
      (slashes ++ below).dropWhile (· ≠ '/') = slashes ++ below := by
    cases slashes with
    | nil => simp [inHome.parted rfl]
    | cons c rest => simp [inHome.onlySlashes c List.mem_cons_self]
  rw [stop.1, stop.2, List.append_nil, List.dropWhile_append_of_pos slashed]
  refine ⟨rfl, ?_⟩
  cases below with
  | nil => rfl
  | cons c rest =>
    have other : c ≠ '/' := fun slash => inHome.start (by rw [slash]; rfl)
    simp [other]

theorem expand_of_inHome
    (inHome : InHome (expandVariables env path.toList) user slashes below) :
    expand env path =
      normalize (beneath (String.ofList (homeDirectory env user)) (String.ofList below)) := by
  have given : path ≠ "" := by
    rintro rfl
    have whole := inHome.whole
    rw [show expandVariables env "".toList = [] by rw [String.toList_empty, expandVariables]]
      at whole
    cases whole
  unfold expand
  rw [if_neg (by simpa using given), inHome.whole]
  split
  · next tail same =>
    rw [← (List.cons.inj same).2, inHome.cut.1, inHome.cut.2]
  · next other => exact absurd rfl (other _)

/-- Below a home directory that is known and more than slashes. -/
theorem expand_of_home {home : String}
    (inHome : InHome (expandVariables env path.toList) user slashes below)
    (known : env.homeOf? (String.ofList user) = some home)
    (rooted : home.toList.head? = some '/') (some : NotBare home.toList) :
    expand env path = normalize (beneath home (String.ofList below)) := by
  obtain ⟨filled, n, whole⟩ := exists_homePath some
  have directory : homeDirectory env user = homePath home.toList := by
    rw [homeDirectory, known, Option.map_some]
    dsimp only
    -- A directory that starts with a slash is not one that starts with `~`.
    refine if_neg fun tilde => ?_
    rw [whole, List.head?_append, tilde] at rooted
    cases rooted
  rw [expand_of_inHome inHome, directory]
  unfold normalize
  rw [ofString_beneath some, ofString_beneath (by rwa [String.toList_ofList]),
    String.toList_ofList]
  have slashes := leadingSlashes_append filled (List.replicate n '/')
  have names := components_append_slashes (homePath home.toList) n
  rw [← whole] at slashes names
  rw [slashes, names]

theorem expand_of_no_home
    (inHome : InHome (expandVariables env path.toList) user slashes below)
    (unknown : env.homeOf? (String.ofList user) = none) :
    expand env path = normalize (String.ofList below) := by
  have directory : homeDirectory env user = current := by
    rw [homeDirectory, unknown]
    rfl
  have relative : leadingSlashes below = 0 := leadingSlashes_replicate (n := 0) (by decide)
    inHome.start
  rw [expand_of_inHome inHome, directory]
  unfold normalize
  rw [ofString_beneath ⟨'.', by simp [current], by decide⟩, Parts.ofString, Parts.ofChars,
    String.toList_ofList, String.toList_ofList, relative]
  rfl

theorem exists_normalize (env : Environment) (given : path ≠ "") :
    ∃ text, expand env path = normalize text := by
  unfold expand
  rw [if_neg (by simpa using given)]
  split
  · exact ⟨_, rfl⟩
  · exact ⟨_, rfl⟩

theorem expand_eq_empty_iff : expand env path = "" ↔ path = "" := by
  constructor
  · intro empty
    by_contra given
    obtain ⟨text, same⟩ := exists_normalize env given
    exact Parts.render_ne _ (same.symm.trans empty)
  · rintro rfl
    rfl

theorem expand_of_normalForm (normal : NormalForm path.toList) (literal : Literal path)
    (tilde : path.toList.head? ≠ some '~') : expand env path = path := by
  by_cases given : path = ""
  · rw [given]
    rfl
  · rw [expand_of_settled (settled_of_not_mem literal tilde) given]
    exact (normalize_eq_self_iff given).2 normal

theorem normalForm_expand (env : Environment) (given : path ≠ "") :
    NormalForm (expand env path).toList := by
  obtain ⟨text, same⟩ := exists_normalize env given
  rw [same]
  exact normalForm_normalize text

end Expand

/-- What expansion makes of a path. -/
structure Expanded (env : Environment) (path expanded : String) : Prop where
  empty : expanded = "" ↔ path = ""
  normal : path ≠ "" → NormalForm expanded.toList
  /-- In a path in normal form expansion does nothing but put in variables and homes. -/
  fixed : NormalForm path.toList → Literal path → path.toList.head? ≠ some '~' → expanded = path
  /-- Expanded once more it stays as it is, whatever the variables and the homes are by then. -/
  settled : Literal expanded → expanded.toList.head? ≠ some '~' →
    ∀ other : Environment, expand other expanded = expanded
  parted : (expandVariables env path.toList).head? = some '~' →
    ∃ user slashes below, InHome (expandVariables env path.toList) user slashes below
  home : ∀ user slashes below, InHome (expandVariables env path.toList) user slashes below →
    (∀ home, env.homeOf? (String.ofList user) = some home → home.toList.head? = some '/' →
      NotBare home.toList → expanded = normalize (beneath home (String.ofList below))) ∧
    (env.homeOf? (String.ofList user) = none → expanded = normalize (String.ofList below))

/-- Expanded paths are in normal form, and where nothing is to be put in, a path in normal form
stays as it is. What lies in a known home is put behind it; what lies in an unknown one is left as
a relative path. -/
theorem expanded_paths_are_normal (env : Environment) (path : String) :
    Expanded env path (expand env path) where
  empty := expand_eq_empty_iff
  normal := normalForm_expand env
  fixed := expand_of_normalForm
  settled literal tilde other := by
    by_cases given : path = ""
    · rw [given]
      rfl
    · exact expand_of_normalForm (normalForm_expand env given) literal tilde
  parted tilde := by
    obtain ⟨tail, whole⟩ := List.head?_eq_some_iff.1 tilde
    rw [whole]
    exact exists_inHome tail
  home user slashes below inHome :=
    ⟨fun _ known rooted some => expand_of_home inHome known rooted some,
      fun unknown => expand_of_no_home inHome unknown⟩

section Example

def bobsMachine : Environment := ⟨[], [("bob", "/home//bob/")], none⟩

/-- Only what leads back within the path goes, and so do the slashes. -/
theorem path_in_home_of_bob :
    InHome (expandVariables bobsMachine "~bob//x/../wallets".toList) ['b', 'o', 'b'] ['/', '/']
      "x/../wallets".toList ∧
    bobsMachine.homeOf? "bob" = some "/home//bob/" ∧
    expand bobsMachine "~bob//x/../wallets" = normalize (beneath "/home//bob/" "x/../wallets") ∧
    normalize (beneath "/home//bob/" "x/../wallets") = "/home/bob/wallets" := by
  have inHome : InHome (expandVariables bobsMachine "~bob//x/../wallets".toList) ['b', 'o', 'b']
      ['/', '/'] "x/../wallets".toList := by
    rw [expandVariables_of_not_mem (by decide)]
    exact ⟨rfl, by decide, by simp, by decide, by decide⟩
  have known : bobsMachine.homeOf? "bob" = some "/home//bob/" := by decide
  have expanded := ((expanded_paths_are_normal bobsMachine _).home _ _ _ inHome).1 _ known
    (by decide) ⟨'h', by decide, by decide⟩
  exact ⟨inHome, known, expanded, by rfl⟩

end Example

end WalletSetup.Path
