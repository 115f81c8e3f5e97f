/-
Addresses with an authority and a scheme that is not special. The authority ends
at the first slash, question mark or number sign. Its last at sign ends the
credentials, which decide nothing about the host, the port and what is behind.
-/

import ArtifactCatalog.PoolSettings
import ArtifactCatalog.Proofs.Text.Cutting

namespace ArtifactCatalog.Url

/-! ### Delimiters -/

/-- The characters that end the authority of an address whose scheme is not special. -/
def delimiters : List Char := ['/', '?', '#']

theorem endsAuthority_other {c : Char} : endsAuthority .other c = true ↔ c ∈ delimiters := by
  simp [endsAuthority, isSlash, delimiters, or_assoc]

def Delimited (text : List Char) : Prop := ∀ c ∈ text.head?, c ∈ delimiters

def Undelimited (text : List Char) : Prop := ∀ c ∈ text, c ∉ delimiters

theorem takeWhile_authority {authority rest : List Char} (inside : Undelimited authority)
    (delimited : Delimited rest) :
    (authority ++ rest).takeWhile (!endsAuthority .other ·) = authority ∧
      (authority ++ rest).dropWhile (!endsAuthority .other ·) = rest := by
  apply Text.takeWhile_append_exact
  · intro c member
    rw [Bool.not_eq_true', ← Bool.not_eq_true, endsAuthority_other]
    exact inside c member
  · intro c atHead
    rw [Bool.not_eq_false', endsAuthority_other]
    exact delimited c atHead

theorem exists_authority (text : List Char) :
    ∃ authority rest, text = authority ++ rest ∧ Undelimited authority ∧ Delimited rest := by
  refine ⟨text.takeWhile (!endsAuthority .other ·), text.dropWhile (!endsAuthority .other ·),
    List.takeWhile_append_dropWhile.symm, ?_, ?_⟩
  · intro c member isDelimiter
    have passed := List.mem_takeWhile_imp member
    rw [endsAuthority_other.2 isDelimiter] at passed
    cases passed
  · intro c atHead
    have stopped := List.head?_dropWhile_not (!endsAuthority .other ·) text
    rw [Option.mem_def.1 atHead] at stopped
    simpa [endsAuthority_other] using stopped

/-! ### Host and port -/

/-- The host and the port at the end of an authority, and the text of the authority
behind the port, if there is such. -/
def readHostAndPort (scheme hostAndPort : List Char) :
    Except Fault (List Char × Option Nat × List Char) := do
  let (hostText, portText) := takeHost false hostAndPort
  let host ← opaqueHost hostText
  match portText with
  | [] => return (host, none, [])
  | _ :: digits =>
    if host.isEmpty then .error .emptyHost
    else
      let (port, left) ← takePort scheme digits
      return (host, port, left)

theorem takePort_append {scheme digits rest : List Char} (delimited : Delimited rest) :
    takePort scheme (digits ++ rest) =
      (takePort scheme digits).map fun (port, left) => (port, left ++ rest) := by
  have noDigit : ∀ c ∈ rest.head?, Text.isAsciiDigit c = false := by
    intro c atHead
    have each : ∀ d ∈ delimiters, Text.isAsciiDigit d = false :=
      List.forall_iff_forall_mem.1 (by decide)
    exact each c (delimited c atHead)
  have stops : ∀ c ∈ (digits.dropWhile Text.isAsciiDigit ++ rest).head?,
      Text.isAsciiDigit c = false := by
    intro c atHead
    have stopped := List.head?_dropWhile_not Text.isAsciiDigit digits
    cases left : digits.dropWhile Text.isAsciiDigit with
    | nil =>
        rw [left] at atHead
        exact noDigit c atHead
    | cons first behind =>
        rw [left] at atHead stopped
        exact Option.some.inj atHead ▸ stopped
  obtain ⟨taken, left⟩ := Text.takeWhile_append_exact
    (fun c member => List.mem_takeWhile_imp member) stops
  rw [← List.append_assoc, List.takeWhile_append_dropWhile] at taken left
  have sameTest : (digits.dropWhile Text.isAsciiDigit ++ rest).head?.any
      (fun c => c ∉ ['/', '\\', '?', '#']) =
      (digits.dropWhile Text.isAsciiDigit).head?.any (fun c => c ∉ ['/', '\\', '?', '#']) := by
    cases digits.dropWhile Text.isAsciiDigit with
    | cons c behind => rfl
    | nil =>
        have each : ∀ d ∈ delimiters, decide (d ∉ ['/', '\\', '?', '#']) = false :=
          List.forall_iff_forall_mem.1 (by decide)
        rw [List.nil_append, List.head?_nil, Option.any_none, Option.any_eq_false]
        intro c atHead
        exact each c (delimited c atHead)
  unfold takePort
  dsimp only
  rw [taken, left, sameTest]
  split
  · rfl
  · split
    · rfl
    · split
      · rfl
      · rfl

/-- How an authority is parted into credentials and host: at its last at sign. -/
def Parts (authority userInfo hostAndPort : List Char) : Prop :=
  ('@' ∉ authority ∧ userInfo = [] ∧ hostAndPort = authority) ∨
    (authority = userInfo ++ '@' :: hostAndPort ∧ '@' ∉ hostAndPort ∧ userInfo ≠ [])

def ofAuthority (scheme : List Char) (credentials : List Char × List Char) (host : List Char)
    (port : Option Nat) : Url :=
  { scheme, username := credentials.1, password := credentials.2, host := some host, port,
    path := .segments [] }

def lacksHost (credentials : List Char × List Char) (host : List Char) : Bool :=
  host.isEmpty && !(credentials.1.isEmpty && credentials.2.isEmpty)

theorem lacksHost_eq_true_iff {credentials : List Char × List Char} {host : List Char} :
    lacksHost credentials host = true ↔ host = [] ∧ credentials ≠ ([], []) := by
  obtain ⟨username, password⟩ := credentials
  cases host <;> cases username <;> cases password <;> simp [lacksHost]

theorem readAuthority_parts {scheme authority userInfo hostAndPort rest : List Char}
    (inside : Undelimited authority) (delimited : Delimited rest)
    (parts : Parts authority userInfo hostAndPort) :
    readAuthority .other scheme (authority ++ rest) =
      (readHostAndPort scheme hostAndPort).bind fun (host, port, left) =>
        if lacksHost (readCredentials userInfo) host then .error .emptyHost
        else .ok (ofAuthority scheme (readCredentials userInfo) host port, left ++ rest) := by
  obtain ⟨isAuthority, isRest⟩ := takeWhile_authority inside delimited
  unfold readAuthority readHostAndPort
  dsimp only
  rw [isAuthority, isRest]
  rcases parts with ⟨noSign, rfl, rfl⟩ | ⟨rfl, noSign, nonempty⟩
  on_goal 1 => rw [Text.cutLast_eq_none noSign]
  on_goal 2 =>
    obtain ⟨first, others, rfl⟩ := List.exists_cons_of_ne_nil nonempty
    rw [Text.cutLast_append_cons noSign]
  -- from here on the two ways to part an authority are read alike
  all_goals
    dsimp only [bind, pure, Except.bind, Except.pure, readHost]
    cases opaqueHost (takeHost false hostAndPort).1 with
    | error fault => rfl
    | ok host =>
        cases (takeHost false hostAndPort).2 with
        | nil =>
            dsimp only
            rw [List.nil_append]
            rfl
        | cons colon digits =>
            dsimp only
            rw [takePort_append delimited]
            cases takePort scheme digits <;> split <;> rfl

/-- Reads an address from the parts of its authority and the text behind; only an address
with a host has credentials. -/
def readParts (scheme : List Char) (credentials : List Char × List Char)
    (hostAndPort rest : List Char) : Except Fault Url :=
  (readHostAndPort scheme hostAndPort).bind fun (host, port, left) =>
    if lacksHost credentials host then .error .emptyHost
    else .ok (withPath .other (ofAuthority scheme credentials host port) (left ++ rest))

theorem readOther_parts {scheme authority userInfo hostAndPort rest : List Char}
    (inside : Undelimited authority) (delimited : Delimited rest)
    (parts : Parts authority userInfo hostAndPort) :
    readOther scheme ('/' :: '/' :: (authority ++ rest)) =
      readParts scheme (readCredentials userInfo) hostAndPort rest := by
  change (readAuthority .other scheme (authority ++ rest)).bind
    (fun found => .ok (withPath .other found.1 found.2)) = _
  rw [readAuthority_parts inside delimited parts]
  unfold readParts
  cases readHostAndPort scheme hostAndPort with
  | error fault => rfl
  | ok found =>
      dsimp only [Except.bind]
      cases lacksHost (readCredentials userInfo) found.1 <;> rfl

theorem readParts_eq_ok_iff {scheme hostAndPort rest : List Char}
    {credentials : List Char × List Char} {url : Url} :
    readParts scheme credentials hostAndPort rest = .ok url ↔
      ∃ host port left, readHostAndPort scheme hostAndPort = .ok (host, port, left) ∧
        (host = [] → credentials = ([], [])) ∧
        url = withPath .other (ofAuthority scheme credentials host port) (left ++ rest) := by
  unfold readParts
  cases readHostAndPort scheme hostAndPort with
  | error fault => simp [Except.bind]
  | ok found =>
      obtain ⟨host, port, left⟩ := found
      have allowed : (host = [] → credentials = ([], [])) ↔ lacksHost credentials host = false := by
        rw [← Bool.not_eq_true, lacksHost_eq_true_iff, not_and_not_right]
      dsimp only [Except.bind]
      cases refused : lacksHost credentials host with
      | true =>
          rw [if_pos rfl]
          constructor
          · nofun
          · rintro ⟨_, _, _, same, isAllowed, _⟩
            cases same
            rw [allowed, refused] at isAllowed
            cases isAllowed
      | false =>
          rw [if_neg Bool.false_ne_true, Except.ok.injEq]
          constructor
          · rintro rfl
            exact ⟨host, port, left, rfl, allowed.2 refused, rfl⟩
          · rintro ⟨_, _, _, same, _isAllowed, rfl⟩
            cases same
            rfl

/-- Whether the parts make an address is decided by the authority alone. -/
theorem exists_readParts_eq_ok_iff {scheme hostAndPort rest : List Char}
    {credentials : List Char × List Char} :
    (∃ url, readParts scheme credentials hostAndPort rest = .ok url) ↔
      ∃ host port left, readHostAndPort scheme hostAndPort = .ok (host, port, left) ∧
        (host = [] → credentials = ([], [])) := by
  simp only [readParts_eq_ok_iff]
  constructor
  · rintro ⟨url, host, port, left, read, allowed, _same⟩
    exact ⟨host, port, left, read, allowed⟩
  · rintro ⟨host, port, left, read, allowed⟩
    exact ⟨_, host, port, left, read, allowed, rfl⟩

/-! ### Texts of addresses -/

/-- A text without its tabs and line breaks, which no address keeps. -/
def unbroken (text : List Char) : List Char := text.filter (!isTabOrLineBreak ·)

def unbrokenEnd (text : List Char) : List Char :=
  unbroken (Text.dropEndWhile (·.toNat ≤ 0x20) text)

theorem unbroken_eq_self (text : List Char) {part : List Char} (isPart : part ⊆ unbroken text) :
    unbroken part = part :=
  List.filter_eq_self.2 fun _ member => (List.mem_filter.1 (isPart member)).2

theorem unbrokenEnd_append_cons {mark : Char} (visible : 0x20 < mark.toNat)
    (front back : List Char) :
    unbrokenEnd (front ++ mark :: back) = unbroken front ++ mark :: unbrokenEnd back := by
  have stays : decide (mark.toNat ≤ 0x20) = false := decide_eq_false (Nat.not_le_of_lt visible)
  have kept : (!isTabOrLineBreak mark) = true := by
    simp only [isTabOrLineBreak, Bool.not_eq_true', Bool.or_eq_false_iff, decide_eq_false_iff_not]
    omega
  unfold unbrokenEnd unbroken
  rw [Text.dropEndWhile_append_cons stays, List.filter_append, List.filter_cons,
    if_pos kept]

theorem mem_of_mem_unbrokenEnd {c : Char} {text : List Char} (member : c ∈ unbrokenEnd text) :
    c ∈ text := by
  have inFront := List.mem_of_mem_filter member
  exact List.mem_reverse.1 ((List.dropWhile_suffix _).subset (List.mem_reverse.1 inFront))

theorem strip_append_slash {front : List Char} (kept : strip front = front)
    (visible : ∀ last ∈ front.getLast?, decide (last.toNat ≤ 0x20) = false) (body : List Char) :
    strip (front ++ '/' :: body) = front ++ '/' :: unbrokenEnd body := by
  unfold strip at kept ⊢
  rw [Text.stripWhile_append_cons rfl visible, Text.stripWhile_cons_of_neg rfl, List.filter_append,
    kept]
  rfl

theorem takeScheme?_append {scheme : List Char} (letters : scheme.all isSchemeChar = true)
    (startsWithLetter : ∃ first ∈ scheme.head?, Text.isAsciiLetter first = true)
    (rest : List Char) :
    takeScheme? (scheme ++ ':' :: rest) = some (Text.asciiLower scheme, rest) := by
  have noColon : ∀ c ∈ (':' :: rest).head?, isSchemeChar c = false := by
    intro c atHead
    rw [← Option.some.inj atHead]
    rfl
  obtain ⟨taken, left⟩ := Text.takeWhile_append_exact (List.all_eq_true.1 letters) noColon
  obtain ⟨first, atHead, isLetter⟩ := startsWithLetter
  obtain ⟨others, rfl⟩ := List.head?_eq_some_iff.1 atHead
  unfold takeScheme?
  rw [taken, left]
  exact if_pos isLetter

theorem read_database {scheme : String} (known : scheme ∈ PoolSettings.schemes)
    (body : List Char) :
    read ((scheme ++ "://").toList ++ body) =
      readOther scheme.toList ('/' :: '/' :: unbrokenEnd body) := by
  have plain : ∀ s ∈ PoolSettings.schemes, strip (s ++ ":/").toList = (s ++ ":/").toList ∧
      (s ++ ":/").toList.getLast? = some '/' ∧ s.toList.all isSchemeChar = true ∧
      s.toList.head? = some 'p' ∧ Text.asciiLower s.toList = s.toList ∧
      schemeKind s.toList = .other := by decide
  obtain ⟨kept, atEnd, letters, atStart, lower, kind⟩ := plain scheme known
  have visible : ∀ last ∈ (scheme ++ ":/").toList.getLast?, decide (last.toNat ≤ 0x20) = false := by
    rw [atEnd]
    rintro last ⟨⟩
    rfl
  have slashes (text : List Char) :
      (scheme ++ "://").toList ++ text = (scheme ++ ":/").toList ++ '/' :: text ∧
      (scheme ++ ":/").toList ++ '/' :: text = scheme.toList ++ ':' :: '/' :: '/' :: text := by
    simp [String.toList_append]
  unfold read
  rw [(slashes body).1, strip_append_slash kept visible, (slashes _).2,
    takeScheme?_append letters ⟨'p', atStart, rfl⟩, lower]
  dsimp only
  rw [kind]

end ArtifactCatalog.Url
