/-
Paths of addresses as lists of segments. A dot leaves the path as it is, two
dots take its last segment away, and a path that ends with one of them ends
with an empty segment.
-/

import ArtifactCatalog.Url.Encoding

namespace ArtifactCatalog.Url

def takeDot? : List Char → Option (List Char)
  | '.' :: rest => some rest
  | '%' :: '2' :: 'e' :: rest => some rest
  | '%' :: '2' :: 'E' :: rest => some rest
  | _ => none

def isSingleDot (segment : List Char) : Bool := takeDot? segment == some []

def isDoubleDot (segment : List Char) : Bool := (takeDot? segment).bind takeDot? == some []

/-- A drive letter: a letter with a colon or a bar. -/
def isDriveLetter : List Char → Bool
  | [c, d] => Text.isAsciiLetter c && (d == ':' || d == '|')
  | _ => false

def isDriveOnly : List (List Char) → Bool
  | [[c, ':']] => Text.isAsciiLetter c
  | _ => false

/-- Takes the last segment away; the drive of a file address stays. -/
def shorten (isFile : Bool) (path : List (List Char)) : List (List Char) :=
  if isFile && isDriveOnly path then path else path.drop 1

/-- Adds a segment; the first one of a file address may be a drive. -/
def addSegment (isFile : Bool) (segment : List Char) (path : List (List Char)) :
    List (List Char) :=
  if isFile && path.isEmpty && isDriveLetter segment then [segment.take 1 ++ [':']]
  else percentEncode inPath segment :: path

/-- Follows segments from a path, whose last segment comes first. -/
def followSegments (isFile : Bool) (path : List (List Char)) :
    List (List Char) → List (List Char)
  | [] => path
  | [last] =>
    if isDoubleDot last then [] :: shorten isFile path
    else if isSingleDot last then [] :: path
    else addSegment isFile last path
  | segment :: rest =>
    if isDoubleDot segment then followSegments isFile (shorten isFile path) rest
    else if isSingleDot segment then followSegments isFile path rest
    else followSegments isFile (addSegment isFile segment path) rest

def readSegments (isFile : Bool) (isSlash : Char → Bool) (s : List Char) : List (List Char) :=
  (followSegments isFile [] (splitAt isSlash s)).reverse
where
  splitAt (isSlash : Char → Bool) (s : List Char) : List (List Char) :=
    (s.map fun c => if isSlash c then '/' else c).splitOn '/'

end ArtifactCatalog.Url
