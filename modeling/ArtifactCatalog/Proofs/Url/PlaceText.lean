/-
Texts of addresses with an authority. The text of an address is that of its
credentials and that of its place: the host and what is behind it. A place is never
written like credentials with a masked password.
-/

import ArtifactCatalog.Proofs.Number.DecimalText
import ArtifactCatalog.Proofs.Url.Authority

namespace ArtifactCatalog.Url

/-! ### Encoded characters -/

theorem mem_percentByte {c : Char} {byte : UInt8} (member : c ∈ percentByte byte) :
    c = '%' ∨ Text.isAsciiDigit c = true ∨ Text.isAsciiUpper c = true := by
  have digits : ∀ n < 16, Text.isAsciiDigit (Text.asciiUpperChar (Text.hexChar n)) = true ∨
      Text.isAsciiUpper (Text.asciiUpperChar (Text.hexChar n)) = true := by decide
  have bounded := byte.toNat_lt
  simp only [percentByte, Text.hexByte, List.map_cons, List.map_nil, List.mem_cons,
    List.not_mem_nil, or_false] at member
  rcases member with rfl | rfl | rfl
  · exact Or.inl rfl
  · exact Or.inr (digits _ (by omega))
  · exact Or.inr (digits _ (by omega))

theorem mem_percentEncode {encoded : Char → Bool} {text : List Char} {c : Char}
    (member : c ∈ percentEncode encoded text) :
    (c ∈ text ∧ encoded c = false) ∨
      c = '%' ∨ Text.isAsciiDigit c = true ∨ Text.isAsciiUpper c = true := by
  obtain ⟨d, isChar, written⟩ := List.mem_flatMap.1 member
  cases isEncoded : encoded d with
  | true =>
      rw [isEncoded, if_pos rfl] at written
      obtain ⟨byte, _isByte, inByte⟩ := List.mem_flatMap.1 written
      exact Or.inr (mem_percentByte inByte)
  | false =>
      rw [isEncoded, if_neg Bool.false_ne_true, List.mem_singleton] at written
      rw [written]
      exact Or.inl ⟨isChar, isEncoded⟩

/-- The marks between the parts of an address, of which no encoding makes one. -/
def marks : List Char := ['@', '/', '?', '#', ':', '[']

theorem not_mem_percentEncode {encoded : Char → Bool} {text : List Char} {mark : Char}
    (isMark : mark ∈ marks) (absent : mark ∈ text → encoded mark = true) :
    mark ∉ percentEncode encoded text := by
  have noDigit : ∀ c ∈ marks, ¬ (c = '%' ∨ Text.isAsciiDigit c = true ∨
      Text.isAsciiUpper c = true) := List.forall_iff_forall_mem.1 (by decide)
  intro member
  rcases mem_percentEncode member with ⟨isChar, plain⟩ | written
  · rw [absent isChar] at plain
    cases plain
  · exact noDigit mark isMark written

theorem not_mem_percentEncode_inUserInfo {mark : Char} (isMark : mark ∈ marks)
    (text : List Char) : mark ∉ percentEncode inUserInfo text := by
  have encoded : ∀ c ∈ marks, inUserInfo c = true := List.forall_iff_forall_mem.1 (by decide)
  exact not_mem_percentEncode isMark fun _ => encoded mark isMark

theorem percentEncode_eq_nil_iff {encoded : Char → Bool} {text : List Char} :
    percentEncode encoded text = [] ↔ text = [] := by
  cases text with
  | nil => exact iff_of_true rfl rfl
  | cons c rest =>
      have bytes : utf8Bytes c ≠ [] := by
        unfold utf8Bytes
        dsimp only
        repeat' split
        all_goals exact List.cons_ne_nil _ _
      obtain ⟨byte, more, isBytes⟩ := List.exists_cons_of_ne_nil bytes
      simp only [percentEncode, List.flatMap_cons, isBytes, percentByte]
      split <;> simp

/-! ### Hosts and ports -/

/-- A host in brackets, or one without a mark. -/
def HostShape (host : List Char) : Prop :=
  (∃ inner, host = '[' :: inner) ∨ ∀ mark ∈ marks, mark ∉ host

theorem hostShape_of_opaqueHost {text host : List Char} (read : opaqueHost text = .ok host) :
    HostShape host := by
  unfold opaqueHost at read
  split at read
  · rename_i bracketed found
    unfold bracketedHost? at found
    split at found
    · rename_i inner
      split at found
      · cases groups : hexGroups inner.dropLast with
        | error fault =>
            rw [groups] at found
            rw [← Option.some.inj found] at read
            cases read
        | ok numbers =>
            rw [groups] at found
            rw [← Option.some.inj found] at read
            cases read
            exact Or.inl ⟨_, rfl⟩
      · rw [← Option.some.inj found] at read
        cases read
    · cases found
  · split at read
    · cases read
    · rename_i allowed
      rw [Bool.not_eq_true, List.any_eq_false] at allowed
      have forbidden : ∀ mark ∈ marks, isForbiddenInHost mark = true :=
        List.forall_iff_forall_mem.1 (by decide)
      rw [← Except.ok.inj read]
      refine Or.inr fun mark isMark => not_mem_percentEncode isMark fun isChar => ?_
      exact absurd (forbidden mark isMark) (allowed mark isChar)

theorem shape_of_readHostAndPort {scheme hostAndPort host left : List Char} {port : Option Nat}
    (read : readHostAndPort scheme hostAndPort = .ok (host, port, left)) :
    HostShape host ∧ (host = [] → port = none) := by
  unfold readHostAndPort at read
  dsimp only [bind, Except.bind, pure, Except.pure] at read
  cases isHost : opaqueHost (takeHost false hostAndPort).1 with
  | error fault =>
      rw [isHost] at read
      cases read
  | ok found =>
      have shape := hostShape_of_opaqueHost isHost
      rw [isHost] at read
      cases portPart : (takeHost false hostAndPort).2 with
      | nil =>
          rw [portPart] at read
          cases read
          exact ⟨shape, fun _ => rfl⟩
      | cons colon digits =>
          rw [portPart] at read
          dsimp only at read
          split at read
          · cases read
          · rename_i nonempty
            cases isPort : takePort scheme digits with
            | error fault =>
                rw [isPort] at read
                cases read
            | ok number =>
                rw [isPort] at read
                cases read
                exact ⟨shape, fun empty => absurd (List.isEmpty_iff.2 empty) nonempty⟩

/-! ### Written addresses -/

def portText : Option Nat → List Char
  | some port => ':' :: Number.natDigits port
  | none => []

def tailText (scheme behind : List Char) : List Char :=
  let url := withPath .other (ofAuthority scheme ([], []) [] none) behind
  url.pathText ++
    (match url.query with
      | some query => '?' :: query
      | none => []) ++
    (match url.fragment with
      | some fragment => '#' :: fragment
      | none => [])

def placeText (scheme host : List Char) (port : Option Nat) (behind : List Char) : List Char :=
  host ++ portText port ++ tailText scheme behind

def credentialsText (credentials : List Char × List Char) : List Char :=
  if credentials.1.isEmpty && credentials.2.isEmpty then []
  else
    credentials.1 ++ (if credentials.2.isEmpty then [] else ':' :: credentials.2) ++ ['@']

/-- The authority has no part in what is read behind it. -/
theorem withPath_ofAuthority (scheme behind host : List Char)
    (credentials : List Char × List Char) (port : Option Nat) :
    withPath .other (ofAuthority scheme credentials host port) behind =
      { withPath .other (ofAuthority scheme ([], []) [] none) behind with
        username := credentials.1, password := credentials.2, host := some host, port } := by
  unfold withPath withTail ofAuthority
  dsimp only
  split <;> rfl

theorem pathText_eq {url : Url} {host : List Char} {segments : List (List Char)}
    (hasHost : url.host = some host) (hasPath : url.path = .segments segments) :
    url.pathText = segments.flatMap ('/' :: ·) := by
  unfold pathText
  rw [hasHost, hasPath]

theorem exists_segments (scheme behind : List Char) : ∃ url segments,
    withPath .other (ofAuthority scheme ([], []) [] none) behind = url ∧ url.scheme = scheme ∧
      url.host = some [] ∧ url.path = .segments segments := by
  unfold withPath withTail
  dsimp only
  split <;> exact ⟨_, _, rfl, rfl, rfl, rfl⟩

theorem delimited_tailText (scheme behind : List Char) : Delimited (tailText scheme behind) := by
  obtain ⟨url, segments, isUrl, _hasScheme, hasHost, hasPath⟩ := exists_segments scheme behind
  unfold tailText Delimited
  dsimp only
  rw [isUrl, pathText_eq hasHost hasPath]
  cases segments with
  | cons segment more =>
      rintro c ⟨⟩
      decide
  | nil =>
      split
      · rintro c ⟨⟩
        decide
      · split
        · rintro c ⟨⟩
          decide
        · nofun

theorem write_withPath (scheme behind host : List Char) (credentials : List Char × List Char)
    (port : Option Nat) :
    (withPath .other (ofAuthority scheme credentials host port) behind).write =
      scheme ++ ':' :: '/' :: '/' ::
        (credentialsText credentials ++ placeText scheme host port behind) := by
  obtain ⟨url, segments, isUrl, hasScheme, hasHost, hasPath⟩ := exists_segments scheme behind
  have samePath : Url.pathText { url with
      username := credentials.1, password := credentials.2, host := some host, port } =
      segments.flatMap ('/' :: ·) := pathText_eq rfl hasPath
  unfold placeText tailText
  rw [withPath_ofAuthority, isUrl]
  unfold write authorityText
  dsimp only
  rw [samePath, hasScheme, pathText_eq hasHost hasPath]
  simp only [List.cons_append, List.append_assoc]
  rfl

theorem masked_withPath (scheme behind host username password : List Char) (port : Option Nat) :
    (withPath .other (ofAuthority scheme (username, password) host port) behind).masked =
      withPath .other (ofAuthority scheme
        (username, if password.isEmpty then [] else mask) host port) behind := by
  unfold masked
  rw [withPath_ofAuthority, withPath_ofAuthority _ _ _ (username, _)]
  cases password <;> rfl

/-! ### A place is not written like credentials -/

def isInner (c : Char) : Bool := c ∉ ['@', '/', '?', '#']

theorem isInner_of_not_mem {text : List Char}
    (absent : ∀ mark ∈ ['@', '/', '?', '#'], mark ∉ text) : ∀ c ∈ text, isInner c = true :=
  fun c member => decide_eq_true fun isMark => absent c isMark member

theorem isInner_of_mem_portText {port : Option Nat} {c : Char} (member : c ∈ portText port) :
    isInner c = true := by
  cases port with
  | none => cases member
  | some number =>
      rcases List.mem_cons.1 member with rfl | digit
      · decide
      · have isDigit := Number.isAsciiDigit_of_mem_natDigits digit
        have noDigit : ∀ mark ∈ ['@', '/', '?', '#'], Text.isAsciiDigit mark = false :=
          List.forall_iff_forall_mem.1 (by decide)
        refine decide_eq_true fun isMark => ?_
        rw [noDigit c isMark] at isDigit
        cases isDigit

/-- Behind credentials the first mark other than a colon is an at sign; behind a place
it is a delimiter. -/
theorem placeText_ne_masked {scheme host behind : List Char} (shape : HostShape host)
    (port : Option Nat) (user other : List Char) :
    placeText scheme host port behind ≠
      percentEncode inUserInfo user ++ ':' :: (mask ++ '@' :: other) := by
  have inMarks : ∀ mark ∈ ['@', '/', '?', '#'], mark ∈ marks :=
    List.forall_iff_forall_mem.1 (by decide)
  have noUserMark (mark : Char) (isMark : mark ∈ marks) :=
    not_mem_percentEncode_inUserInfo isMark user
  generalize percentEncode inUserInfo user = name at noUserMark
  intro same
  unfold placeText at same
  rcases shape with ⟨inner, rfl⟩ | plain
  · cases name with
    | nil => cases same
    | cons c rest =>
        rw [List.cons_append, List.cons_append, List.cons_append, List.cons.injEq] at same
        exact noUserMark '[' (by decide) (same.1 ▸ List.mem_cons_self)
  · have innerName := isInner_of_not_mem fun mark isMark => noUserMark mark (inMarks mark isMark)
    have innerHost := isInner_of_not_mem fun mark isMark => plain mark (inMarks mark isMark)
    have innerFront : ∀ c ∈ name ++ ':' :: mask, isInner c = true := by
      intro c member
      rcases List.mem_append.1 member with inName | inMask
      · exact innerName c inName
      · have each : ∀ d ∈ ':' :: mask, isInner d = true :=
          List.forall_iff_forall_mem.1 (by decide)
        exact each c inMask
    have innerPlace : ∀ c ∈ host ++ portText port, isInner c = true := by
      intro c member
      rcases List.mem_append.1 member with inHost | inPort
      · exact innerHost c inHost
      · exact isInner_of_mem_portText inPort
    have atSign : ∀ c ∈ ('@' :: other).head?, isInner c = false := by
      rintro c ⟨⟩
      decide
    have atDelimiter : ∀ c ∈ (tailText scheme behind).head?, isInner c = false := by
      intro c atHead
      have outer : ∀ d ∈ delimiters, isInner d = false :=
        List.forall_iff_forall_mem.1 (by decide)
      exact outer c (delimited_tailText scheme behind c atHead)
    have left := (Text.takeWhile_append_exact innerPlace atDelimiter).2
    have right := (Text.takeWhile_append_exact innerFront atSign).2
    rw [List.append_assoc, List.cons_append, ← same, left] at right
    have isDelimiter := delimited_tailText scheme behind '@' (by rw [right]; rfl)
    exact absurd isDelimiter (by decide)

theorem placeText_ne_of_host {scheme host behind otherBehind : List Char} (shape : HostShape host)
    (hasHost : host ≠ []) (port : Option Nat) :
    placeText scheme host port behind ≠ placeText scheme [] none otherBehind := by
  intro same
  obtain ⟨first, rest, rfl⟩ := List.exists_cons_of_ne_nil hasHost
  have atHead : first ∈ (tailText scheme otherBehind).head? := by
    change placeText scheme (first :: rest) port behind = tailText scheme otherBehind at same
    rw [← same]
    rfl
  have isDelimiter := delimited_tailText scheme otherBehind first atHead
  have inMarks : ∀ mark ∈ delimiters, mark ∈ marks ∧ mark ≠ '[' :=
    List.forall_iff_forall_mem.1 (by decide)
  rcases shape with ⟨inner, bracketed⟩ | plain
  · exact (inMarks first isDelimiter).2 (List.cons.inj bracketed).1
  · exact plain first (inMarks first isDelimiter).1 List.mem_cons_self

end ArtifactCatalog.Url
