/-
Masked texts of database addresses with a user and a password. A password without a
delimiter is never shown. One with a delimiter ends the authority in front of it, and
then it is hidden only where no address is left to be shown.
-/

import ArtifactCatalog.Proofs.Url.PlaceText

namespace ArtifactCatalog.Url

def IsAddress (s : String) : Prop := ∃ url, parse s = .ok url

/-- Both texts are addresses, and these are written alike. -/
def SameAddress (s t : String) : Prop :=
  ∃ u v, parse s = .ok u ∧ parse t = .ok v ∧ u.render = v.render

structure LoginAddress where
  scheme : String
  user : List Char
  behind : List Char
  isKnown : scheme ∈ PoolSettings.schemes
  userNonempty : user ≠ []
  userPlain : ∀ c ∈ user, c ∉ [':', '@', '/', '?', '#']
  behindPlain : '@' ∉ behind

theorem readCredentials_append {username : List Char} (noColon : ':' ∉ username)
    (password : List Char) :
    readCredentials (username ++ ':' :: password) =
      (percentEncode inUserInfo username, percentEncode inUserInfo password) := by
  have cut : Text.cutFirst ':' (username ++ ':' :: password) = some (username, password) :=
    Text.cutFirst_eq_some_iff.2 ⟨rfl, noColon⟩
  unfold readCredentials
  rw [cut]
  rfl

theorem maskPassword_of_parse {s : String} {url : Url} (isUrl : parse s = .ok url) :
    maskPassword s = url.masked.render := by
  unfold maskPassword maskText
  rw [show read s.toList = .ok url from isUrl]
  rfl

def addressText (scheme : List Char) (credentials : List Char × List Char)
    (place : List Char) : List Char :=
  scheme ++ ':' :: '/' :: '/' :: (credentialsText credentials ++ place)

theorem credentialsText_append_masked (username place : List Char) :
    credentialsText (username, mask) ++ place =
      username ++ ':' :: (mask ++ '@' :: place) := by
  simp [credentialsText, mask]

theorem addressText_eq_iff {scheme place otherPlace : List Char}
    {credentials otherCredentials : List Char × List Char} :
    addressText scheme credentials place = addressText scheme otherCredentials otherPlace ↔
      credentialsText credentials ++ place = credentialsText otherCredentials ++ otherPlace := by
  unfold addressText
  simp only [List.append_cancel_left_eq, List.cons.injEq, true_and]

section Parts

variable {s : String} {scheme hostAndPort rest : List Char} {credentials : List Char × List Char}

theorem isAddress_iff_of_parts
    (isParts : parse s = readParts scheme credentials hostAndPort rest) :
    IsAddress s ↔ ∃ host port left, readHostAndPort scheme hostAndPort = .ok (host, port, left) ∧
      (host = [] → credentials = ([], [])) := by
  unfold IsAddress
  rw [isParts]
  exact exists_readParts_eq_ok_iff

theorem isAddress_congr {t : String} {otherRest : List Char}
    (isParts : parse s = readParts scheme credentials hostAndPort rest)
    (sameParts : parse t = readParts scheme credentials hostAndPort otherRest) :
    IsAddress s ↔ IsAddress t := by
  rw [isAddress_iff_of_parts isParts, isAddress_iff_of_parts sameParts]

/-- What is shown of an address: its credentials with a masked password, and its place. -/
theorem maskPassword_of_parts {username password host left : List Char} {port : Option Nat}
    (isParts : parse s = readParts scheme (username, password) hostAndPort rest)
    (read : readHostAndPort scheme hostAndPort = .ok (host, port, left))
    (allowed : host = [] → (username, password) = ([], [])) :
    maskPassword s = String.ofList (addressText scheme
      (username, if password.isEmpty then [] else mask)
      (placeText scheme host port (left ++ rest))) := by
  have isUrl := isParts.trans (readParts_eq_ok_iff.2 ⟨host, port, left, read, allowed, rfl⟩)
  rw [maskPassword_of_parse isUrl, masked_withPath]
  exact congrArg String.ofList (write_withPath scheme (left ++ rest) host _ port)

theorem sameAddress_iff_of_parts {t : String} {otherHostAndPort otherRest : List Char}
    (isParts : parse s = readParts scheme ([], []) hostAndPort rest)
    (isOther : parse t = readParts scheme ([], []) otherHostAndPort otherRest) :
    SameAddress s t ↔
      ∃ host port left otherHost otherPort otherLeft,
        readHostAndPort scheme hostAndPort = .ok (host, port, left) ∧
        readHostAndPort scheme otherHostAndPort = .ok (otherHost, otherPort, otherLeft) ∧
        placeText scheme host port (left ++ rest) =
          placeText scheme otherHost otherPort (otherLeft ++ otherRest) := by
  have render_eq_iff (host left otherHost otherLeft : List Char) (port otherPort : Option Nat) :
      (withPath .other (ofAuthority scheme ([], []) host port) (left ++ rest)).render =
          (withPath .other (ofAuthority scheme ([], []) otherHost otherPort)
            (otherLeft ++ otherRest)).render ↔
        placeText scheme host port (left ++ rest) =
          placeText scheme otherHost otherPort (otherLeft ++ otherRest) := by
    unfold render
    rw [String.ofList_inj, write_withPath, write_withPath]
    exact addressText_eq_iff
  unfold SameAddress
  rw [isParts, isOther]
  constructor
  · rintro ⟨u, v, isUrl, isOtherUrl, same⟩
    obtain ⟨host, port, left, isRead, _allowed, rfl⟩ := readParts_eq_ok_iff.1 isUrl
    obtain ⟨otherHost, otherPort, otherLeft, isOtherRead, _, rfl⟩ :=
      readParts_eq_ok_iff.1 isOtherUrl
    rw [render_eq_iff] at same
    exact ⟨host, port, left, otherHost, otherPort, otherLeft, isRead, isOtherRead, same⟩
  · rintro ⟨host, port, left, otherHost, otherPort, otherLeft, isRead, isOtherRead, same⟩
    rw [← render_eq_iff] at same
    exact ⟨_, _, readParts_eq_ok_iff.2 ⟨host, port, left, isRead, fun _ => rfl, rfl⟩,
      readParts_eq_ok_iff.2 ⟨otherHost, otherPort, otherLeft, isOtherRead, fun _ => rfl, rfl⟩, same⟩

end Parts

namespace LoginAddress

variable (a : LoginAddress)

def addressed (body : List Char) : String := a.scheme ++ "://" ++ String.ofList body

def text (password : List Char) : String :=
  a.addressed (a.user ++ ':' :: (password ++ '@' :: a.behind))

/-- What is shown is one of two texts that the password has no part in. -/
def Hides (password : List Char) : Prop :=
  maskPassword (a.text password) = maskPassword (a.text ['x']) ∨
    maskPassword (a.text password) = "***@" ++ String.ofList a.behind

/-- The user as addresses keep it. -/
def username : List Char := percentEncode inUserInfo (unbroken a.user)

/-! ### Reading -/

theorem not_mem_unbroken_user {c : Char} (isMark : c ∈ [':', '@', '/', '?', '#']) :
    c ∉ unbroken a.user :=
  fun member => a.userPlain c (List.mem_of_mem_filter member) isMark

theorem parse_addressed (body : List Char) :
    parse (a.addressed body) =
      readOther a.scheme.toList ('/' :: '/' :: unbrokenEnd body) := by
  unfold parse addressed
  rw [String.toList_append, String.toList_ofList]
  exact read_database a.isKnown body

theorem parse_text (password : List Char) :
    parse (a.text password) = readOther a.scheme.toList ('/' :: '/' ::
      (unbroken a.user ++ ':' :: (unbroken password ++ '@' :: unbrokenEnd a.behind))) := by
  unfold text
  rw [parse_addressed, unbrokenEnd_append_cons (by decide), unbrokenEnd_append_cons (by decide)]

theorem undelimited_user_append {front : List Char} (noDelimiter : Undelimited front) :
    Undelimited (unbroken a.user ++ ':' :: front) := by
  have isMark : ∀ c ∈ delimiters, c ∈ [':', '@', '/', '?', '#'] :=
    List.forall_iff_forall_mem.1 (by decide)
  intro c member isDelimiter
  rcases List.mem_append.1 member with inUser | inFront
  · exact a.not_mem_unbroken_user (isMark c isDelimiter) inUser
  · rcases List.mem_cons.1 inFront with rfl | inFront
    · exact absurd isDelimiter (by decide)
    · exact noDelimiter c inFront isDelimiter

/-- A password without a delimiter is read as the password, and the place is read from
what is behind. -/
theorem parse_text_of_undelimited {password authority rest : List Char}
    (noDelimiter : Undelimited (unbroken password))
    (isBehind : unbrokenEnd a.behind = authority ++ rest) (inside : Undelimited authority)
    (delimited : Delimited rest) :
    parse (a.text password) = readParts a.scheme.toList
      (a.username, percentEncode inUserInfo (unbroken password)) authority rest := by
  have noSign : '@' ∉ authority := fun member => a.behindPlain
    (mem_of_mem_unbrokenEnd (isBehind ▸ List.mem_append_left rest member))
  have allInside : Undelimited
      (unbroken a.user ++ ':' :: (unbroken password ++ '@' :: authority)) := by
    refine a.undelimited_user_append fun c member => ?_
    rcases List.mem_append.1 member with inPassword | behindSign
    · exact noDelimiter c inPassword
    · rcases List.mem_cons.1 behindSign with rfl | inAuthority
      · decide
      · exact inside c inAuthority
  have parts : Parts (unbroken a.user ++ ':' :: (unbroken password ++ '@' :: authority))
      (unbroken a.user ++ ':' :: unbroken password) authority :=
    Or.inr ⟨by simp, noSign, by simp⟩
  have isRead : readOther a.scheme.toList _ = _ := readOther_parts allInside delimited parts
  rw [readCredentials_append (a.not_mem_unbroken_user (by decide))] at isRead
  rw [parse_text, isBehind]
  simpa only [username, List.append_assoc, List.cons_append] using isRead

theorem parse_of_delimiter {body authority userInfo hostAndPort back : List Char} {mark : Char}
    (isBody : unbrokenEnd body = authority ++ mark :: back) (inside : Undelimited authority)
    (isDelimiter : mark ∈ delimiters) (parts : Parts authority userInfo hostAndPort) :
    parse (a.addressed body) =
      readParts a.scheme.toList (readCredentials userInfo) hostAndPort (mark :: back) := by
  have delimited : Delimited (mark :: back) := by
    rintro c ⟨⟩
    exact isDelimiter
  rw [parse_addressed, isBody]
  exact readOther_parts inside delimited parts

/-! ### Shown texts -/

theorem maskPassword_of_not_isAddress {password : List Char}
    (isNone : ¬ IsAddress (a.text password)) :
    maskPassword (a.text password) = "***@" ++ String.ofList a.behind := by
  have isText : (a.text password).toList =
      ((a.scheme ++ "://").toList ++ a.user ++ ':' :: password) ++ '@' :: a.behind := by
    simp [text, addressed, String.toList_append]
  unfold maskPassword maskText
  cases isRead : read (a.text password).toList with
  | ok url => exact absurd ⟨url, isRead⟩ isNone
  | error fault =>
      dsimp only
      rw [isText, Text.cutLast_append_cons a.behindPlain]
      apply String.toList_injective
      simp [mask]

theorem addressText_ne_masked (credentials : List Char × List Char) (place : List Char) :
    String.ofList (addressText a.scheme.toList credentials place) ≠
      "***@" ++ String.ofList a.behind := by
  have noStar : ∀ s ∈ PoolSettings.schemes, s.toList.head? ≠ some '*' ∧ s.toList ≠ [] := by decide
  intro same
  have sameList := congrArg String.toList same
  rw [String.toList_ofList, String.toList_append, String.toList_ofList] at sameList
  obtain ⟨first, others, isScheme⟩ := List.exists_cons_of_ne_nil (noStar a.scheme a.isKnown).2
  have sameHead := congrArg List.head? sameList
  unfold addressText at sameHead
  rw [isScheme] at sameHead
  apply (noStar a.scheme a.isKnown).1
  rw [isScheme]
  exact sameHead

/-- What is shown of an address with a password, by its host with the port and the
text behind these. -/
def withMask (hostAndPort rest : List Char) : String :=
  match readHostAndPort a.scheme.toList hostAndPort with
  | .error _ => "***@" ++ String.ofList a.behind
  | .ok (host, port, left) =>
    if host.isEmpty then "***@" ++ String.ofList a.behind
    else
      String.ofList (addressText a.scheme.toList (a.username, mask)
        (placeText a.scheme.toList host port (left ++ rest)))

theorem maskPassword_of_secret {password secret hostAndPort rest : List Char}
    (nonempty : secret ≠ [])
    (isParts : parse (a.text password) =
      readParts a.scheme.toList (a.username, secret) hostAndPort rest) :
    maskPassword (a.text password) = a.withMask hostAndPort rest := by
  have hasCredentials : (a.username, secret) ≠ ([], []) := by
    intro same
    exact nonempty (Prod.mk.inj same).2
  have isAddress := isAddress_iff_of_parts isParts
  unfold withMask
  cases isRead : readHostAndPort a.scheme.toList hostAndPort with
  | error fault =>
      apply a.maskPassword_of_not_isAddress
      rw [isAddress, isRead]
      rintro ⟨host, port, left, same, _allowed⟩
      cases same
  | ok found =>
      obtain ⟨host, port, left⟩ := found
      cases host with
      | nil =>
          apply a.maskPassword_of_not_isAddress
          rw [isAddress, isRead]
          rintro ⟨_, _, _, same, allowed⟩
          cases same
          exact hasCredentials (allowed rfl)
      | cons first others =>
          rw [maskPassword_of_parts isParts isRead nofun,
            if_neg (by rwa [List.isEmpty_iff])]
          rfl

theorem withMask_eq (hostAndPort rest : List Char) :
    a.withMask hostAndPort rest = "***@" ++ String.ofList a.behind ∨
      ∃ host port left,
        readHostAndPort a.scheme.toList hostAndPort = .ok (host, port, left) ∧ host ≠ [] ∧
        a.withMask hostAndPort rest = String.ofList (addressText a.scheme.toList
          (a.username, mask) (placeText a.scheme.toList host port (left ++ rest))) := by
  unfold withMask
  cases readHostAndPort a.scheme.toList hostAndPort with
  | error fault => exact Or.inl rfl
  | ok found =>
      obtain ⟨host, port, left⟩ := found
      cases host with
      | nil => exact Or.inl rfl
      | cons first others =>
          exact Or.inr ⟨first :: others, port, left, rfl, List.cons_ne_nil _ _, rfl⟩

theorem maskPassword_letter {authority rest : List Char}
    (isBehind : unbrokenEnd a.behind = authority ++ rest) (inside : Undelimited authority)
    (delimited : Delimited rest) :
    maskPassword (a.text ['x']) = a.withMask authority rest := by
  have noDelimiter : Undelimited (unbroken ['x']) := List.forall_iff_forall_mem.1 (by decide)
  exact a.maskPassword_of_secret (by decide)
    (a.parse_text_of_undelimited noDelimiter isBehind inside delimited)

/-! ### Hidden passwords -/

theorem hides_of_undelimited {password : List Char}
    (noDelimiter : Undelimited (unbroken password)) (nonempty : unbroken password ≠ []) :
    maskPassword (a.text password) = maskPassword (a.text ['x']) := by
  obtain ⟨authority, rest, isBehind, inside, delimited⟩ :=
    exists_authority (unbrokenEnd a.behind)
  have isSecret : percentEncode inUserInfo (unbroken password) ≠ [] := by
    rwa [Ne, percentEncode_eq_nil_iff]
  rw [a.maskPassword_letter isBehind inside delimited]
  exact a.maskPassword_of_secret isSecret
    (a.parse_text_of_undelimited noDelimiter isBehind inside delimited)

theorem hides_iff_of_noSecret {password hostAndPort rest : List Char}
    {credentials : List Char × List Char}
    (noSecret : credentials = ([], []) ∨ credentials = (a.username, []))
    (isParts : parse (a.text password) =
      readParts a.scheme.toList credentials hostAndPort rest) :
    a.Hides password ↔ ¬ IsAddress (a.text password) := by
  refine ⟨fun hides isAddress => ?_, fun isNone => Or.inr (a.maskPassword_of_not_isAddress isNone)⟩
  obtain ⟨name, rfl, isName⟩ : ∃ name,
      credentials = (name, []) ∧ (name = [] ∨ name = a.username) := by
    rcases noSecret with rfl | rfl
    · exact ⟨[], rfl, Or.inl rfl⟩
    · exact ⟨a.username, rfl, Or.inr rfl⟩
  obtain ⟨host, port, left, isRead, allowed⟩ := (isAddress_iff_of_parts isParts).1 isAddress
  have shape := (shape_of_readHostAndPort isRead).1
  obtain ⟨authority, behind, isBehind, inside, delimited⟩ :=
    exists_authority (unbrokenEnd a.behind)
  have shown := maskPassword_of_parts isParts isRead allowed
  rw [List.isEmpty_nil, if_pos rfl] at shown
  rw [Hides, a.maskPassword_letter isBehind inside delimited, shown] at hides
  have notNone := a.addressText_ne_masked (name, [])
    (placeText a.scheme.toList host port (left ++ rest))
  rcases hides with sameAsLetter | sameAsNone
  · rcases a.withMask_eq authority behind with isNone | ⟨_, _, _, _isRead, _hasHost, isPlace⟩
    · exact notNone (sameAsLetter.trans isNone)
    · rw [isPlace, String.ofList_inj, addressText_eq_iff,
        credentialsText_append_masked] at sameAsLetter
      cases name with
      | nil => exact placeText_ne_masked shape port (unbroken a.user) _ sameAsLetter
      | cons first others =>
          rcases isName with isEmpty | isName
          · cases isEmpty
          · rw [← isName] at sameAsLetter
            simp [credentialsText] at sameAsLetter
  · exact notNone sameAsNone

theorem parse_behind {authority rest : List Char}
    (isBehind : unbrokenEnd a.behind = authority ++ rest) (inside : Undelimited authority)
    (delimited : Delimited rest) :
    parse (a.addressed a.behind) = readParts a.scheme.toList ([], []) authority rest := by
  have noSign : '@' ∉ authority := fun member => a.behindPlain
    (mem_of_mem_unbrokenEnd (isBehind ▸ List.mem_append_left rest member))
  rw [a.parse_addressed, isBehind]
  exact readOther_parts inside delimited (Or.inl ⟨noSign, rfl, rfl⟩)

/-- A part of a password that is read as one is masked, but the place may be another
than the one behind the password. -/
theorem hides_iff_of_secret {password secret hostAndPort rest : List Char} {place : String}
    (nonempty : secret ≠ [])
    (isParts : parse (a.text password) =
      readParts a.scheme.toList (a.username, secret) hostAndPort rest)
    (isPlace : parse place = readParts a.scheme.toList ([], []) hostAndPort rest) :
    a.Hides password ↔
      ¬ IsAddress (a.text password) ∨ SameAddress place (a.addressed a.behind) := by
  obtain ⟨authority, behind, isBehind, inside, delimited⟩ :=
    exists_authority (unbrokenEnd a.behind)
  rw [sameAddress_iff_of_parts isPlace (a.parse_behind isBehind inside delimited)]
  by_cases isAddress : IsAddress (a.text password)
  case neg =>
    exact iff_of_true (Or.inr (a.maskPassword_of_not_isAddress isAddress)) (Or.inl isAddress)
  rw [or_iff_right (not_not.2 isAddress), Hides, a.maskPassword_letter isBehind inside delimited]
  obtain ⟨host, port, left, isRead, allowed⟩ := (isAddress_iff_of_parts isParts).1 isAddress
  have hasHost : host ≠ [] := fun isEmpty => nonempty (Prod.mk.inj (allowed isEmpty)).2
  have shape := (shape_of_readHostAndPort isRead).1
  have shown := maskPassword_of_parts isParts isRead allowed
  rw [if_neg (by rwa [List.isEmpty_iff])] at shown
  rw [shown, or_iff_left (a.addressText_ne_masked _ _)]
  constructor
  · intro sameAsLetter
    rcases a.withMask_eq authority behind with isNone | ⟨_, _, _, isOtherRead, _, isPlace⟩
    · exact absurd (sameAsLetter.trans isNone) (a.addressText_ne_masked _ _)
    · rw [isPlace, String.ofList_inj, addressText_eq_iff, List.append_cancel_left_eq]
        at sameAsLetter
      exact ⟨_, _, _, _, _, _, isRead, isOtherRead, sameAsLetter⟩
  · rintro ⟨_, _, _, otherHost, otherPort, otherLeft, sameRead, isOtherRead, samePlace⟩
    cases isRead.symm.trans sameRead
    have hasOtherHost : otherHost ≠ [] := by
      rintro rfl
      rw [(shape_of_readHostAndPort isOtherRead).2 rfl] at samePlace
      exact placeText_ne_of_host shape hasHost port samePlace
    unfold withMask
    rw [isOtherRead]
    dsimp only
    rw [if_neg (by rwa [List.isEmpty_iff]), samePlace]

section Delimiter

variable {password front back : List Char} {mark : Char}

theorem parse_text_of_delimiter {userInfo hostAndPort : List Char}
    (isPassword : unbroken password = front ++ mark :: back) (noDelimiter : Undelimited front)
    (isDelimiter : mark ∈ delimiters)
    (parts : Parts (unbroken a.user ++ ':' :: front) userInfo hostAndPort) :
    parse (a.text password) = readParts a.scheme.toList (readCredentials userInfo) hostAndPort
        (mark :: (back ++ '@' :: unbrokenEnd a.behind)) ∧
      (IsAddress (a.text password) ↔
        IsAddress (a.addressed (a.user ++ ':' :: (front ++ ['/'])))) := by
  have keptFront : unbroken front = front :=
    unbroken_eq_self password fun c member => by simp [isPassword, member]
  have isBody : unbrokenEnd (a.user ++ ':' :: (password ++ '@' :: a.behind)) =
      (unbroken a.user ++ ':' :: front) ++ mark :: (back ++ '@' :: unbrokenEnd a.behind) := by
    rw [unbrokenEnd_append_cons (by decide), unbrokenEnd_append_cons (by decide), isPassword]
    simp only [List.append_assoc, List.cons_append]
  have isFrontBody : unbrokenEnd (a.user ++ ':' :: (front ++ ['/'])) =
      (unbroken a.user ++ ':' :: front) ++ '/' :: [] := by
    rw [unbrokenEnd_append_cons (by decide), unbrokenEnd_append_cons (by decide), keptFront]
    simp only [List.append_assoc, List.cons_append]
    rfl
  have inside := a.undelimited_user_append noDelimiter
  have isParts := a.parse_of_delimiter isBody inside isDelimiter parts
  exact ⟨isParts, isAddress_congr isParts
    (a.parse_of_delimiter isFrontBody inside (by decide) parts)⟩

theorem parse_place {early late : List Char}
    (isPassword : unbroken password = (early ++ '@' :: late) ++ mark :: back)
    (noDelimiter : Undelimited (early ++ '@' :: late)) (isDelimiter : mark ∈ delimiters)
    (noSign : '@' ∉ late) :
    parse (a.addressed (late ++ mark :: (back ++ '@' :: a.behind))) =
      readParts a.scheme.toList ([], []) late (mark :: (back ++ '@' :: unbrokenEnd a.behind)) := by
  have visible : ∀ c ∈ delimiters, 0x20 < c.toNat := List.forall_iff_forall_mem.1 (by decide)
  have keptLate : unbroken late = late :=
    unbroken_eq_self password fun c member => by simp [isPassword, member]
  have keptBack : unbroken back = back :=
    unbroken_eq_self password fun c member => by simp [isPassword, member]
  have isBody : unbrokenEnd (late ++ mark :: (back ++ '@' :: a.behind)) =
      late ++ mark :: (back ++ '@' :: unbrokenEnd a.behind) := by
    rw [unbrokenEnd_append_cons (visible mark isDelimiter),
      unbrokenEnd_append_cons (by decide), keptLate, keptBack]
  have inside : Undelimited late := fun c member =>
    noDelimiter c (List.mem_append_right _ (List.mem_cons_of_mem _ member))
  exact a.parse_of_delimiter isBody inside isDelimiter (Or.inl ⟨noSign, rfl, rfl⟩)

/-- A password with a delimiter is hidden if the text in front of the delimiter has no
host and port, or if the place that is read is the one behind the password. -/
theorem hides_iff_of_delimiter (isPassword : unbroken password = front ++ mark :: back)
    (noDelimiter : Undelimited front) (isDelimiter : mark ∈ delimiters) :
    a.Hides password ↔
      ¬ IsAddress (a.addressed (a.user ++ ':' :: (front ++ ['/']))) ∨
      ∃ early late, front = early ++ '@' :: late ∧ '@' ∉ late ∧ early ≠ [] ∧
        SameAddress (a.addressed (late ++ mark :: (back ++ '@' :: a.behind)))
          (a.addressed a.behind) := by
  by_cases hasSign : '@' ∈ front
  · obtain ⟨early, late, rfl, noSign⟩ := Text.exists_cutLast hasSign
    have parts : Parts (unbroken a.user ++ ':' :: (early ++ '@' :: late))
        (unbroken a.user ++ ':' :: early) late := Or.inr ⟨by simp, noSign, by simp⟩
    obtain ⟨isParts, sameIsAddress⟩ :=
      a.parse_text_of_delimiter isPassword noDelimiter isDelimiter parts
    rw [readCredentials_append (a.not_mem_unbroken_user (by decide))] at isParts
    rw [← sameIsAddress]
    by_cases isEmpty : early = []
    · rw [a.hides_iff_of_noSecret (Or.inr (by rw [isEmpty]; rfl)) isParts, iff_self_or]
      rintro ⟨otherEarly, otherLate, same, noOther, nonempty, _samePlace⟩
      exact absurd ((Text.cutLast_unique noSign noOther same).1 ▸ isEmpty) nonempty
    · have isSecret : percentEncode inUserInfo early ≠ [] := by
        rwa [Ne, percentEncode_eq_nil_iff]
      rw [a.hides_iff_of_secret isSecret isParts
        (a.parse_place isPassword noDelimiter isDelimiter noSign)]
      refine or_congr_right ⟨fun samePlace => ⟨early, late, rfl, noSign, isEmpty, samePlace⟩, ?_⟩
      rintro ⟨otherEarly, otherLate, same, noOther, _nonempty, samePlace⟩
      rwa [(Text.cutLast_unique noSign noOther same).2]
  · have noSign : '@' ∉ unbroken a.user ++ ':' :: front := by
      simp [hasSign, a.not_mem_unbroken_user]
    obtain ⟨isParts, sameIsAddress⟩ := a.parse_text_of_delimiter isPassword noDelimiter
      isDelimiter (Or.inl ⟨noSign, rfl, rfl⟩)
    rw [← sameIsAddress, a.hides_iff_of_noSecret (Or.inl rfl) isParts, iff_self_or]
    rintro ⟨early, late, rfl, _⟩
    exact absurd (by simp) hasSign

end Delimiter

theorem hides_iff_of_unbroken_eq_nil {password : List Char} (noPassword : unbroken password = []) :
    maskPassword (a.text password) = maskPassword (a.text []) ∧
      (a.Hides password ↔ ¬ IsAddress (a.text [])) := by
  have sameParse : parse (a.text password) = parse (a.text []) := by
    rw [a.parse_text, a.parse_text, noPassword]
    rfl
  have sameIsAddress : IsAddress (a.text password) ↔ IsAddress (a.text []) := by
    unfold IsAddress
    rw [sameParse]
  obtain ⟨authority, rest, isBehind, inside, delimited⟩ :=
    exists_authority (unbrokenEnd a.behind)
  have noDelimiter : Undelimited (unbroken password) := by
    rw [noPassword]
    nofun
  have isParts := a.parse_text_of_undelimited noDelimiter isBehind inside delimited
  rw [noPassword] at isParts
  refine ⟨?_, (a.hides_iff_of_noSecret (Or.inr rfl) isParts).trans (not_congr sameIsAddress)⟩
  by_cases isAddress : IsAddress (a.text password)
  · obtain ⟨url, isUrl⟩ := isAddress
    rw [maskPassword_of_parse isUrl, maskPassword_of_parse (sameParse.symm.trans isUrl)]
  · rw [a.maskPassword_of_not_isAddress isAddress,
      a.maskPassword_of_not_isAddress (mt sameIsAddress.2 isAddress)]

/-- A password without a delimiter is masked. One that addresses do not keep is shown
as no password at all. Whether one with a delimiter is hidden is decided by what is
read in front of its first delimiter. -/
theorem maskPassword_hidesPassword (password : List Char) :
    (Undelimited (unbroken password) → unbroken password ≠ [] →
      maskPassword (a.text password) = maskPassword (a.text ['x'])) ∧
    (unbroken password = [] →
      maskPassword (a.text password) = maskPassword (a.text []) ∧
      (a.Hides password ↔ ¬ IsAddress (a.text []))) ∧
    ∀ front mark back, unbroken password = front ++ mark :: back → Undelimited front →
      mark ∈ delimiters →
      (a.Hides password ↔
        ¬ IsAddress (a.addressed (a.user ++ ':' :: (front ++ ['/']))) ∨
        ∃ early late, front = early ++ '@' :: late ∧ '@' ∉ late ∧ early ≠ [] ∧
          SameAddress (a.addressed (late ++ mark :: (back ++ '@' :: a.behind)))
            (a.addressed a.behind)) := by
  refine ⟨a.hides_of_undelimited, a.hides_iff_of_unbroken_eq_nil, ?_⟩
  intro front mark back isPassword noDelimiter isDelimiter
  exact a.hides_iff_of_delimiter isPassword noDelimiter isDelimiter

end LoginAddress

def storeLogin : LoginAddress where
  scheme := "postgres"
  user := "user".toList
  behind := "host/db".toList
  isKnown := by decide
  userNonempty := by decide
  userPlain := List.forall_iff_forall_mem.1 (by decide)
  behindPlain := by decide

theorem maskPassword_hidesPassword_storeLogin :
    maskPassword (storeLogin.text "p@s:s".toList) = maskPassword (storeLogin.text ['x']) ∧
    maskPassword (storeLogin.text ['\t']) = maskPassword (storeLogin.text []) ∧
    storeLogin.Hides "pa/ss".toList := by
  have noAddress : ¬ IsAddress (storeLogin.addressed "user:pa/".toList) := by
    rintro ⟨url, isUrl⟩
    have refused : (parse (storeLogin.addressed "user:pa/".toList)).toOption = none := by
      decide +kernel
    rw [isUrl] at refused
    cases refused
  exact ⟨(storeLogin.maskPassword_hidesPassword "p@s:s".toList).1
      (List.forall_iff_forall_mem.1 (by decide)) (by decide),
    ((storeLogin.maskPassword_hidesPassword ['\t']).2.1 rfl).1,
    ((storeLogin.maskPassword_hidesPassword "pa/ss".toList).2.2 "pa".toList '/' "ss".toList rfl
      (List.forall_iff_forall_mem.1 (by decide)) (by decide)).2 (Or.inl noAddress)⟩

/-- The user is read as the host, the digits as the port and the rest as the path. -/
theorem not_hides_storeLogin_port :
    maskPassword (storeLogin.text "5432/secret".toList) = "postgres://user:5432/secret@host/db" ∧
      ¬ storeLogin.Hides "5432/secret".toList := by
  unfold LoginAddress.Hides
  decide +kernel

end ArtifactCatalog.Url
