/-
This file tells what the URL of a key below a base reads as. It keeps the scheme and the host of the base; its path is
that of the base with the key behind it, once the dot segments are gone.
-/
import Mathlib.Data.List.TakeWhile
import PathStore.Proofs.Program.Outcomes
import PathStore.Proofs.Url.DotSegments

namespace PathStore.Url

open Reference (splitBefore isSchemeCharacter isAsciiLetter)

section Components

theorem splitBefore_append {test : Char → Bool} (before : List Char)
    (bare : ∀ character ∈ before, test character = false) {mark : Char} (ends : test mark = true) (after : List Char) :
    splitBefore test (before ++ mark :: after) = (before, mark :: after) := by
  have passed : ∀ character ∈ before, (!test character) = true := fun character member => by
    rw [bare character member, Bool.not_false]
  rw [splitBefore, List.takeWhile_append_of_pos passed, List.dropWhile_append_of_pos passed,
    List.takeWhile_cons_of_neg (by simp [ends]), List.dropWhile_cons_of_neg (by simp [ends]), List.append_nil]

theorem splitBefore_of_bare {test : Char → Bool} {characters : List Char}
    (bare : ∀ character ∈ characters, test character = false) : splitBefore test characters = (characters, []) := by
  have passed : ∀ character ∈ characters, (!test character) = true := fun character member => by
    rw [bare character member, Bool.not_false]
  rw [splitBefore, List.takeWhile_eq_self_iff.mpr passed, List.dropWhile_eq_nil_iff.mpr passed]

/-- What stands before the first mark holds none, and a mark begins the rest. -/
theorem splitBefore_cases {test : Char → Bool} {characters before after : List Char}
    (split : splitBefore test characters = (before, after)) :
    characters = before ++ after ∧ (∀ character ∈ before, test character = false) ∧
      ∀ mark ∈ after.head?, test mark = true := by
  obtain ⟨rfl, rfl⟩ := Prod.mk.inj split
  refine ⟨List.takeWhile_append_dropWhile.symm, fun character member => ?_, fun mark first => ?_⟩
  · simpa using List.mem_takeWhile_imp member
  · have stops := List.head?_dropWhile_not (fun character => !test character) characters
    rw [Option.mem_def.mp first] at stops
    simpa using stops

/-- Nothing in a component begins a query or a fragment. -/
def IsBare (component : List Char) : Prop := ∀ character ∈ component, character ≠ '?' ∧ character ≠ '#'

theorem isBare_append {first second : List Char} : IsBare (first ++ second) ↔ IsBare first ∧ IsBare second :=
  List.forall_mem_append

theorem isBare_cons {character : Char} {rest : List Char} :
    IsBare (character :: rest) ↔ (character ≠ '?' ∧ character ≠ '#') ∧ IsBare rest := List.forall_mem_cons

theorem IsBare.not_mark {component : List Char} (bare : IsBare component) :
    ∀ character ∈ component, (decide (character = '?') || decide (character = '#')) = false := by
  intro character member
  obtain ⟨noQuery, noFragment⟩ := bare character member
  rw [decide_eq_false noQuery, decide_eq_false noFragment, Bool.or_false]

/-- A scheme stands before its colon, whatever comes after it. -/
theorem splitScheme_eq_some {characters scheme rest : List Char}
    (split : splitScheme characters = (some scheme, rest)) :
    characters = scheme ++ ':' :: rest ∧ IsBare scheme ∧
      ∀ more, splitScheme (scheme ++ ':' :: more) = (some scheme, more) := by
  have apart : characters.takeWhile isSchemeCharacter ++
      characters.drop (characters.takeWhile isSchemeCharacter).length = characters :=
    List.prefix_iff_eq_append.mp (List.takeWhile_prefix _)
  have whole {written : List Char} (kept : ∀ character ∈ written, isSchemeCharacter character = true)
      (more : List Char) : (written ++ ':' :: more).takeWhile isSchemeCharacter = written := by
    rw [List.takeWhile_append_of_pos kept, List.takeWhile_cons_of_neg (by decide), List.append_nil]
  have kept : ∀ character ∈ characters.takeWhile isSchemeCharacter, isSchemeCharacter character = true :=
    fun character member => List.mem_takeWhile_imp member
  rw [splitScheme] at split
  split at split
  · rename_i rest' none colon
    obtain ⟨⟨rfl⟩, rfl⟩ := Prod.mk.inj split
    rw [colon, none] at apart
    exact ⟨apart.symm, nofun, fun more => rfl⟩
  · rename_i first tail rest' found colon
    split at split
    · rename_i letter
      obtain ⟨⟨rfl⟩, rfl⟩ := Prod.mk.inj split
      rw [colon] at apart
      refine ⟨apart.symm, fun character member => ?_, fun more => ?_⟩
      · have named := kept character member
        exact ⟨fun same => absurd (same ▸ named) (by decide), fun same => absurd (same ▸ named) (by decide)⟩
      rw [splitScheme, whole kept, List.drop_left, found]
      exact if_pos letter
    · cases split
  · cases split

/-- An authority stands behind two slashes and before the first slash or mark that follows. -/
theorem splitAuthority_eq_some {characters authority rest : List Char}
    (split : splitAuthority characters = (some authority, '/' :: rest)) :
    characters = '/' :: '/' :: authority ++ '/' :: rest ∧ IsBare authority ∧
      ∀ more, splitAuthority ('/' :: '/' :: authority ++ '/' :: more) = (some authority, '/' :: more) := by
  unfold splitAuthority at split
  split at split
  · rename_i written
    obtain ⟨named, left⟩ := Prod.mk.inj split
    obtain ⟨apart, bare, -⟩ := splitBefore_cases (Prod.ext (Option.some.inj named) left)
    refine ⟨by rw [apart]; rfl, fun character member => ?_, fun more => ?_⟩
    · have inside := bare character member
      simp only [Bool.or_eq_false_iff, decide_eq_false_iff_not] at inside
      exact ⟨inside.1.2, inside.2⟩
    rw [List.cons_append, List.cons_append, splitAuthority, splitBefore_append _ bare rfl]
  · cases split

/-- A query behind its mark, if there is one. -/
def marked : Option (List Char) → List Char
  | some query => '?' :: query
  | none => []

/-- A URL that ends with its path has its components split off one after another. -/
theorem Parts.exists_splits {characters scheme authority path : List Char}
    (parts : Parts.ofList characters = ⟨some scheme, some authority, '/' :: path, none, none⟩) :
    ∃ rest, splitScheme characters = (some scheme, rest) ∧ splitAuthority rest = (some authority, '/' :: path) ∧
      IsBare ('/' :: path) := by
  unfold Parts.ofList at parts
  cases schemeSplit : splitScheme characters with
  | mk foundScheme afterScheme =>
    cases authoritySplit : splitAuthority afterScheme with
    | mk foundAuthority afterAuthority =>
      cases pathSplit : splitBefore (fun character => character = '?' || character = '#') afterAuthority with
      | mk foundPath afterPath =>
        rw [schemeSplit] at parts
        dsimp only at parts
        rw [authoritySplit] at parts
        dsimp only at parts
        rw [pathSplit] at parts
        obtain ⟨pathApart, pathBare, ends⟩ := splitBefore_cases pathSplit
        have finished : afterPath = [] := by
          cases afterPath with
          | nil => rfl
          | cons mark more =>
              have marked := ends mark rfl
              rw [Bool.or_eq_true, decide_eq_true_eq, decide_eq_true_eq] at marked
              obtain rfl | rfl := marked
              · cases congrArg Parts.query parts
              · cases congrArg Parts.fragment parts
        obtain ⟨rfl, rfl, rfl, -, -⟩ := Parts.mk.inj parts
        rw [finished, List.append_nil] at pathApart
        exact ⟨afterScheme, rfl, authoritySplit.trans (congrArg _ pathApart), fun character member => by
          simpa using pathBare character member⟩

/-- Components that are split off one after another are those of the URL. -/
theorem Parts.ofList_marked {characters rest scheme authority path : List Char} {query : Option (List Char)}
    (schemeSplit : splitScheme characters = (some scheme, rest))
    (authoritySplit : splitAuthority rest = (some authority, path ++ marked query)) (bare : IsBare path)
    (noFragment : '#' ∉ marked query) :
    Parts.ofList characters = ⟨some scheme, some authority, path, query, none⟩ := by
  have pathSplit : splitBefore (fun character => character = '?' || character = '#') (path ++ marked query) =
      (path, marked query) := by
    cases query with
    | some written => exact splitBefore_append path bare.not_mark rfl written
    | none =>
        rw [marked, List.append_nil]
        exact splitBefore_of_bare bare.not_mark
  unfold Parts.ofList
  rw [schemeSplit]
  dsimp only
  rw [authoritySplit]
  dsimp only
  rw [pathSplit]
  cases query with
  | some written =>
      have queryWhole : splitBefore (· = '#') written = (written, []) :=
        splitBefore_of_bare fun character member =>
          decide_eq_false fun same => noFragment (List.mem_cons_of_mem _ (same ▸ member))
      simp only [marked, queryWhole]
  | none => rfl

/-- A URL that ends with its path is made of its components, and stays so where its path and a query follow. -/
theorem Parts.ofList_path {characters scheme authority path : List Char}
    (parts : Parts.ofList characters = ⟨some scheme, some authority, '/' :: path, none, none⟩) :
    characters = scheme ++ ':' :: '/' :: '/' :: authority ++ '/' :: path ∧ IsBare characters ∧
      ∀ more query, IsBare ('/' :: more) → '#' ∉ marked query →
        Parts.ofList (scheme ++ ':' :: '/' :: '/' :: authority ++ '/' :: more ++ marked query) =
          ⟨some scheme, some authority, '/' :: more, query, none⟩ := by
  obtain ⟨rest, schemeSplit, authoritySplit, pathBare⟩ := Parts.exists_splits parts
  obtain ⟨authorityApart, authorityBare, authorityAgain⟩ := splitAuthority_eq_some authoritySplit
  obtain ⟨schemeApart, schemeBare, schemeAgain⟩ := splitScheme_eq_some schemeSplit
  rw [authorityApart] at schemeApart
  refine ⟨?_, ?_, fun more query bare noFragment => ?_⟩
  · rw [schemeApart]
    simp
  · rw [schemeApart]
    simp only [isBare_append, isBare_cons, List.cons_append]
    exact ⟨schemeBare, by decide, by decide, by decide, authorityBare, isBare_cons.mp pathBare⟩
  · have spelled : scheme ++ ':' :: '/' :: '/' :: authority ++ '/' :: more ++ marked query =
        scheme ++ ':' :: ('/' :: '/' :: authority ++ '/' :: (more ++ marked query)) := by simp
    rw [spelled]
    exact Parts.ofList_marked (schemeAgain _) (authorityAgain _) bare noFragment

end Components

section Reading

theorem findControl?_eq_none_iff {characters : List Char} (position : Nat) :
    findControl? position characters = none ↔
      ∀ character ∈ characters, ¬(character.toNat < 0x20 ∨ character.toNat = 0x7F) := by
  induction characters generalizing position with
  | nil => simp [findControl?]
  | cons character rest ih =>
      rw [findControl?, List.forall_mem_cons]
      split
      · rename_i control
        exact ⟨nofun, fun none => absurd control none.1⟩
      · rename_i plain
        rw [ih]
        exact ⟨fun none => ⟨plain, none⟩, fun none => none.2⟩

/-- The characters that are kept in a component are printable ones of ASCII. -/
theorem bounds_of_isKept {unsafeCharacters : String} {character : Char}
    (kept : isKept (isSafeExcept unsafeCharacters) character = true) :
    0x20 ≤ character.toNat ∧ character.toNat < 0x7F := by
  rw [isKept, Bool.or_eq_true] at kept
  obtain unreserved | safe := kept
  · have order {first second : Char} : first ≤ second ↔ first.toNat ≤ second.toNat := Iff.rfl
    have same {first second : Char} : first = second ↔ first.toNat = second.toNat := Char.toNat_inj.symm
    simp only [isUnreserved, isAlphanumeric, order, same, Bool.or_eq_true, Bool.decide_and, Bool.and_eq_true,
      decide_eq_true_eq] at unreserved
    simp only [show 'a'.toNat = 97 from rfl, show 'z'.toNat = 122 from rfl, show 'A'.toNat = 65 from rfl,
      show 'Z'.toNat = 90 from rfl, show '0'.toNat = 48 from rfl, show '9'.toNat = 57 from rfl,
      show '_'.toNat = 95 from rfl, show '.'.toNat = 46 from rfl, show '-'.toNat = 45 from rfl,
      show '~'.toNat = 126 from rfl] at unreserved
    omega
  · simp only [isSafeExcept, Bool.decide_and, Bool.and_eq_true, decide_eq_true_eq] at safe
    exact ⟨safe.1, safe.2.1⟩

section Kept

variable {component : List Char}

theorem not_mem_of_isKept {isSafe : Char → Bool} (kept : ∀ character ∈ component, isKept isSafe character = true)
    {mark : Char} (escaped : isKept isSafe mark = false) : mark ∉ component := by
  intro member
  rw [kept mark member] at escaped
  cases escaped

theorem isBare_of_isKept (kept : ∀ character ∈ component, isKept pathSafe character = true) : IsBare component :=
  fun _ member => ⟨fun same => not_mem_of_isKept kept (by decide) (same ▸ member),
    fun same => not_mem_of_isKept kept (by decide) (same ▸ member)⟩

theorem isKept_of_mem_removeDots (kept : ∀ character ∈ component, isKept pathSafe character = true) :
    ∀ character ∈ removeDots component, isKept pathSafe character = true := by
  intro character member
  obtain rfl | member := mem_of_mem_removeDots member
  · decide
  · exact kept character member

variable {query : Option String}

theorem toList_elim_mark (query : Option String) :
    (query.elim "" ("?" ++ ·)).toList = marked (query.map String.toList) := by
  cases query with
  | none => rfl
  | some written =>
      rw [Option.elim_some, String.toList_append]
      rfl

/-- A query that needs no escapes needs none behind its mark. -/
theorem isKept_of_mem_marked
    (kept : ∀ written ∈ query, ∀ character ∈ written.toList, isKept querySafe character = true) :
    ∀ character ∈ marked (query.map String.toList), isKept querySafe character = true := by
  cases query with
  | none => nofun
  | some written => exact List.forall_mem_cons.mpr ⟨by decide, kept written rfl⟩

end Kept

/-- A component of kept characters is written as it is. -/
theorem escaped_of_kept {unsafeCharacters : String} {component : List Char}
    (kept : ∀ character ∈ component, isKept (isSafeExcept unsafeCharacters) character = true) :
    escaped (isSafeExcept unsafeCharacters) component = String.ofList component := by
  rw [escaped, normalizeEscapes_of_kept kept]

/-- A text is read if it is short enough and holds no control characters, and its components fit together. -/
theorem Address.read_eq_ok_iff {text : String} {address : Address} :
    read text = .ok address ↔
      text.toList.length ≤ longestUrl ∧
        (∀ character ∈ text.toList, ¬(character.toNat < 0x20 ∨ character.toNat = 0x7F)) ∧
        ofParts (Parts.ofList text.toList) = .ok address := by
  rw [read, ← findControl?_eq_none_iff 0]
  by_cases long : longestUrl < text.toList.length
  · have short : ¬text.toList.length ≤ longestUrl := Nat.not_le.mpr long
    simp only [if_pos long, short, false_and, iff_false]
    nofun
  · simp only [if_neg long, Nat.not_lt.mp long, true_and]
    cases control : findControl? 0 text.toList with
    | some found => exact ⟨nofun, nofun⟩
    | none => exact ⟨fun same => ⟨rfl, same⟩, fun same => same.2⟩

section OfParts

variable {parts : Parts} {address : Address}

/-- A URL that names a host has an authority. -/
theorem Address.hasAuthority_of_isAbsolute (absolute : address.isAbsolute = true) :
    (decide (address.userInfo ≠ "") || decide (address.host ≠ "") || address.port.isSome) = true := by
  rw [isAbsolute, Bool.and_eq_true] at absolute
  rw [absolute.2, Bool.or_true, Bool.true_or]

/-- The path of a URL that names a host begins at the root, and is written without dot segments. -/
theorem Address.ofParts_path (normal : ofParts parts = .ok address) (absolute : address.isAbsolute = true) :
    (parts.path ≠ [] → parts.path.head? = some '/') ∧ address.path = escaped pathSafe (removeDots parts.path) := by
  unfold ofParts at normal
  simp only [Outcome.bind_eq_ok_iff] at normal
  obtain ⟨host, -, port, -, _, fits, whole⟩ := normal
  obtain rfl := Except.ok.inj whole
  have named := hasAuthority_of_isAbsolute absolute
  dsimp only at named
  rw [named] at fits
  refine ⟨fun filled => ?_, ?_⟩
  · by_contra other
    simp [checkPath, filled, other] at fits
  · dsimp only
    rw [named, Bool.or_true, if_pos rfl]

/-- Another path and another query leave the rest of a URL in normal form as it is. -/
theorem Address.ofParts_with (normal : ofParts parts = .ok address) (absolute : address.isAbsolute = true)
    {path : List Char} (rooted : path.head? = some '/') (query : Option (List Char)) :
    ofParts { parts with path, query } =
      .ok { address with path := escaped pathSafe (removeDots path), query := query.map (escaped querySafe) } := by
  unfold ofParts at normal ⊢
  simp only [Outcome.bind_eq_ok_iff] at normal ⊢
  obtain ⟨host, hostNormal, port, portNormal, -, -, whole⟩ := normal
  obtain rfl := Except.ok.inj whole
  have named := hasAuthority_of_isAbsolute absolute
  dsimp only at named
  have fits : checkPath (!(parts.scheme.getD []).isEmpty) true path = .ok () := by
    rw [checkPath, rooted]
    simp
    rfl
  refine ⟨host, hostNormal, port, portNormal, (), ?_, ?_⟩
  · rw [named, fits]
  · rw [named, Bool.or_true, if_pos rfl]
    rfl

end OfParts
end Reading

/-- A URL in normal form that has a scheme and a host of ASCII, and ends with the path of a directory. -/
structure Address.IsBase (base : Address) (text : String) : Prop where
  read : Address.read text = .ok base
  /-- The components are written as they are in normal form. -/
  written : Parts.ofList text.toList = base.parts
  absolute : base.isAbsolute = true
  plainHost : base.host.toList.all (·.toNat < 0x80) = true
  noQuery : base.query = none
  noFragment : base.fragment = none
  directory : ∃ above, base.path = above ++ "/"

/-- Whether a URL addresses a key below a base: its path goes on from that of the base with what reads as the key. -/
def Address.Names (base address : Address) (key : String) : Prop :=
  ∃ rest, address.path = base.path ++ rest ∧ unescapeBytes? rest.toList = some (Utf8.encode key)

namespace Address.IsBase

variable {base : Address} {text : String}

theorem ofParts (isBase : base.IsBase text) : Address.ofParts base.parts = .ok base := by
  rw [← isBase.written]
  exact (read_eq_ok_iff.mp isBase.read).2.2

/-- The characters of the path are kept where they stand. -/
theorem path_kept (isBase : base.IsBase text) : ∀ character ∈ base.path.toList, isKept pathSafe character = true := by
  obtain ⟨-, pathNormal⟩ := ofParts_path isBase.ofParts isBase.absolute
  intro character member
  rw [pathNormal, escaped, String.toList_ofList] at member
  exact isKept_of_mem_normalizeEscapes (by decide) member

theorem not_hasDots (isBase : base.IsBase text) : ¬HasDots base.path.toList := by
  obtain ⟨-, pathNormal⟩ := ofParts_path isBase.ofParts isBase.absolute
  rw [pathSafe, parts, escaped_of_kept (isKept_of_mem_removeDots isBase.path_kept)] at pathNormal
  have same := congrArg String.toList pathNormal
  rw [String.toList_ofList] at same
  exact removeDots_eq_self_iff.mp same.symm

/-- A base is its scheme, its authority and its path. -/
theorem exists_components (isBase : base.IsBase text) :
    ∃ below, base.path.toList = '/' :: below ∧
      text.toList = base.scheme.toList ++ ':' :: '/' :: '/' :: base.authority.toList ++ base.path.toList ∧
      IsBare text.toList ∧
      ∀ more query, IsBare ('/' :: more) → '#' ∉ marked query →
        Parts.ofList (base.scheme.toList ++ ':' :: '/' :: '/' :: base.authority.toList ++ '/' :: more ++ marked query) =
          { base.parts with path := '/' :: more, query } := by
  obtain ⟨above, directory⟩ := isBase.directory
  have filled : base.path.toList ≠ [] := by
    rw [directory, String.toList_append]
    exact List.append_ne_nil_of_right_ne_nil _ (by decide)
  have rooted := (ofParts_path isBase.ofParts isBase.absolute).1 filled
  obtain ⟨below, path⟩ : ∃ below, base.path.toList = '/' :: below := List.head?_eq_some_iff.mp rooted
  have written := isBase.written
  rw [parts, isBase.noQuery, isBase.noFragment, path] at written
  obtain ⟨apart, bare, again⟩ := Parts.ofList_path written
  refine ⟨below, path, path ▸ apart, bare, fun more query moreBare noFragment => ?_⟩
  rw [again more query moreBare noFragment, parts, isBase.noFragment]
  rfl

theorem isBare (isBase : base.IsBase text) : IsBare text.toList := by
  obtain ⟨_, -, -, bare, -⟩ := isBase.exists_components
  exact bare

/-- A base is written as its text, and stays so in front of another path and a query. -/
theorem write_with (isBase : base.IsBase text) :
    ∃ front, text = front ++ base.path ∧
      ∀ path query, { base with path, query := some query : Address }.write = front ++ path ++ "?" ++ query := by
  obtain ⟨below, -, apart, -, -⟩ := isBase.exists_components
  refine ⟨base.scheme ++ ":" ++ ("//" ++ base.authority), String.ext ?_, fun path query => ?_⟩
  · rw [apart]
    simp
  · have absolute := isBase.absolute
    rw [isAbsolute, Bool.and_eq_true, decide_eq_true_eq, decide_eq_true_eq] at absolute
    have named : base.authority ≠ "" := by
      intro empty
      rw [authority, String.append_eq_empty_iff, String.append_eq_empty_iff] at empty
      have noHost := empty.1.2
      split at noHost
      · rw [String.append_eq_empty_iff] at noHost
        exact absurd noHost.2 (by decide)
      · exact absolute.2 noHost
    have kept : { base with path, query := some query : Address }.authority = base.authority := rfl
    rw [write, kept]
    dsimp only
    rw [if_neg absolute.1, if_neg named, isBase.noFragment, String.append_empty]
    simp only [String.append_assoc]

/-- A text behind a base that needs no more escapes, with a query or without one, reads as the base with the text in its
path, without dot segments. -/
theorem read_below (isBase : base.IsBase text) {component : String} {query : Option String}
    (kept : ∀ character ∈ component.toList, isKept pathSafe character = true)
    (queryKept : ∀ written ∈ query, ∀ character ∈ written.toList, isKept querySafe character = true)
    (short : (text ++ component ++ query.elim "" ("?" ++ ·)).toList.length ≤ longestUrl) :
    Address.read (text ++ component ++ query.elim "" ("?" ++ ·)) =
      .ok { base with path := String.ofList (removeDots (base.path ++ component).toList), query } := by
  obtain ⟨below, path, apart, -, again⟩ := isBase.exists_components
  have pathKept : ∀ character ∈ (base.path ++ component).toList, isKept pathSafe character = true := by
    intro character member
    rw [String.toList_append] at member
    exact (List.mem_append.mp member).elim (isBase.path_kept character) (kept character)
  have printable : ∀ character ∈ (text ++ component ++ query.elim "" ("?" ++ ·)).toList,
      ¬(character.toNat < 0x20 ∨ character.toNat = 0x7F) := by
    intro character member
    simp only [String.toList_append, toList_elim_mark, List.mem_append] at member
    obtain (inText | inComponent) | inQuery := member
    · exact (read_eq_ok_iff.mp isBase.read).2.1 character inText
    · have := bounds_of_isKept (kept character inComponent)
      omega
    · have := bounds_of_isKept (isKept_of_mem_marked queryKept character inQuery)
      omega
  have whole : (base.path ++ component).toList = '/' :: (below ++ component.toList) := by
    rw [String.toList_append, path, List.cons_append]
  have components : Parts.ofList (text ++ component ++ query.elim "" ("?" ++ ·)).toList =
      { base.parts with path := (base.path ++ component).toList, query := query.map String.toList } := by
    have noFragment : '#' ∉ marked (query.map String.toList) :=
      not_mem_of_isKept (isKept_of_mem_marked queryKept) (by decide)
    rw [whole, ← again _ _ (whole ▸ isBare_of_isKept pathKept) noFragment]
    simp [apart, path, toList_elim_mark]
  refine read_eq_ok_iff.mpr ⟨short, printable, ?_⟩
  rw [components]
  have queryNormal : (query.map String.toList).map (escaped querySafe) = query := by
    cases query with
    | none => rfl
    | some written =>
        rw [Option.map_some, Option.map_some, querySafe, escaped_of_kept (queryKept written rfl), String.ofList_toList]
  rw [ofParts_with isBase.ofParts isBase.absolute (by rw [whole]; rfl), queryNormal, pathSafe,
    escaped_of_kept (isKept_of_mem_removeDots pathKept)]

/-- A base has no dot segments of its own and ends with a slash, so those of a key below it are those of the key. -/
theorem hasDots_below (isBase : base.IsBase text) (key : String) :
    HasDots (base.path ++ escapeKey key).toList ↔ HasDots key.toList := by
  obtain ⟨above, directory⟩ := isBase.directory
  have none : ¬HasDots (above.toList ++ '/' :: []) := by
    have none := isBase.not_hasDots
    rwa [directory, String.toList_append] at none
  rw [hasDots_append_slash, not_or] at none
  have whole : (base.path ++ escapeKey key).toList = above.toList ++ '/' :: (escapeKey key).toList := by
    rw [directory]
    simp
  rw [whole, hasDots_append_slash, hasDots_escapeKey, or_iff_right none.1]

/-- The URL of a key in normal form is written as the base with the key exactly if the key has no dot segments. -/
theorem write_below_iff (isBase : base.IsBase text) (key query : String) :
    { base with
        path := String.ofList (removeDots (base.path ++ escapeKey key).toList)
        query := some query : Address }.write = text ++ escapeKey key ++ "?" ++ query ↔ ¬HasDots key.toList := by
  obtain ⟨front, rfl, written⟩ := isBase.write_with
  have regroup : front ++ base.path ++ escapeKey key = front ++ (base.path ++ escapeKey key) := String.append_assoc
  rw [written, regroup, ← isBase.hasDots_below, ← removeDots_eq_self_iff, String.append_left_inj,
    String.append_left_inj, String.append_right_inj, ← String.toList_inj, String.toList_ofList]

/-- The URL of a key in normal form addresses the key exactly if the key has no dot segments. -/
theorem names_below_iff (isBase : base.IsBase text) (key : String) (query : Option String) :
    base.Names { base with path := String.ofList (removeDots (base.path ++ escapeKey key).toList), query } key ↔
      ¬HasDots key.toList := by
  constructor
  · rintro ⟨rest, same, read⟩ dots
    have shorter := length_unescapeBytes_removeDots ((isBase.hasDots_below key).mpr dots)
    have path := congrArg String.toList same
    dsimp only at path
    rw [String.toList_ofList] at path
    obtain ⟨above, directory⟩ := isBase.directory
    have bytes {below : String} (reads : unescapeBytes? below.toList = some (Utf8.encode key)) :
        unescapeBytes (base.path ++ below).toList = unescapeBytes above.toList ++ 0x2F :: Utf8.encode key := by
      have whole : (base.path ++ below).toList = above.toList ++ '/' :: below.toList := by
        rw [directory]
        simp
      rw [whole, unescapeBytes_slash, unescapeBytes_of_unescapeBytes? reads]
    rw [path, bytes read, bytes (unescapeBytes?_escapeKey key)] at shorter
    exact Nat.lt_irrefl _ shorter
  · intro none
    refine ⟨escapeKey key, ?_, unescapeBytes?_escapeKey key⟩
    rw [removeDots_of_not_hasDots fun dots => none ((isBase.hasDots_below key).mp dots), String.ofList_toList]

end Address.IsBase

end PathStore.Url
