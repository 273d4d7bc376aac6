import ScopeTracker.Files.Uri.Percent
import ScopeTracker.Text.Split

/-!
# Segments of URI paths

A path is a row of segments. Segments that are a point lead nowhere, those of two points leave
the segment in front of them; either may be percent-encoded. A drive, which is a letter with a
colon or a bar, is never left. At the start of the path of a file a drive is written with a
colon, and the path then has no host.
-/

namespace ScopeTracker

namespace Uri

/-- Whether a segment names a drive: a letter with a colon or a bar. -/
def isDrive : Text → Bool
  | [letter, mark] => letter.isAlpha && (mark = ':' || mark = '|')
  | _ => false

/-- Whether a segment stays where it is. -/
def isStay (segment : Text) : Bool :=
  [".", "%2e"].any (·.toList = Text.asciiLower segment)

/-- Whether a segment leaves the segment in front of it. -/
def isLeave (segment : Text) : Bool :=
  ["..", ".%2e", "%2e.", "%2e%2e"].any (·.toList = Text.asciiLower segment)

/-- A path as far as it is read: its segments, the last one first, and whether it is that of a
file and starts with a drive. -/
structure Segments where
  kept : List Text := []
  hasDrive : Bool := false
deriving DecidableEq, Repr

namespace Segments

/-- Adds a segment at the end. -/
def push (path : Segments) (segment : Text) : Segments :=
  { path with kept := segment :: path.kept }

/-- Leaves the last segment, unless it is a drive. -/
def leave (path : Segments) : Segments :=
  match path.kept with
  | [] => path
  | segment :: kept => if isDrive segment then path else { path with kept }

/-- Adds a drive at the start of the path of a file. -/
def pushDrive (path : Segments) (drive : Text) : Segments :=
  { path.push (drive.take 1 ++ [':']) with hasDrive := true }

/-- Adds segments. Where one that leads nowhere or leaves another ends the path, the path ends
in a slash. -/
def add (isFile : Bool) (path : Segments) : List Text → Segments
  | [] => path
  | segment :: rest =>
    let close (path : Segments) : Segments := if rest.isEmpty then path.push [] else path
    if isStay segment then add isFile (close path) rest
    else if isLeave segment then add isFile (close path.leave) rest
    else if isFile && path.kept.isEmpty && isDrive segment then
      add isFile (path.pushDrive segment) rest
    else add isFile (path.push segment) rest

/-- The text of a path with segments. -/
def text (segments : List Text) : String := "/" ++ "/".intercalate (segments.map String.ofList)

/-- Leaves out the empty segments at the start of a path, except for the last segment. -/
def dropEmpty : List Text → List Text
  | [] :: next :: rest => dropEmpty (next :: rest)
  | segments => segments

/-- The path without segments at its start that are empty. -/
def fileText (path : Segments) : String := text (dropEmpty path.kept.reverse)

end Segments

/-- The segments of a path in which what is reserved is encoded. A slash at the start does not
count. -/
def segmentsOf (path : Text) : List Text :=
  let path := match path with
    | '/' :: rest => rest
    | path => path
  Text.splitAtChar '/' (encode reservedInPath path)

/-- The normal form of a path with segments. -/
def normalPath (path : Text) : String :=
  Segments.text (({} : Segments).add false (segmentsOf path)).kept.reverse

end Uri

end ScopeTracker
