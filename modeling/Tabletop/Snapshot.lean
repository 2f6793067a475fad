import Tabletop.Document.Json.Writer
import Tabletop.Sheet

/-!
# Snapshots

What is saved of a character: who it is, and how far its attributes and skills have come. Everything
else follows from the content. A snapshot is stored as a table of named fields, each of which may be
missing.
-/
namespace Tabletop

/-- How far an attribute or a skill has come. -/
structure Progress where
  level : Nat
  points : Nat
  deriving DecidableEq, Repr

/-- The saved state of a character. -/
structure Snapshot where
  version : Int
  identity : Identity
  attributes : List (String × Progress)
  skills : List (String × Progress)
  deriving DecidableEq, Repr

namespace Snapshot

/-- The latest version of the format. -/
def currentVersion : Int := 1

/-- How far a track has come. -/
def progressOf (t : Track) : Progress := ⟨t.level, t.points.toNat⟩

/-- The state of a sheet. -/
def ofSheet (sheet : Sheet) : Snapshot :=
  ⟨currentVersion, sheet.identity,
    sheet.attributes.map fun a => (a.id, progressOf a.track),
    sheet.skills.map fun s => (s.id, progressOf s.track)⟩

/-! ### As a document -/

def progressDocument (p : Progress) : Document :=
  .table [("upgrade_level", .int p.level), ("upgrade_points", .int p.points)]

def progressTable (entries : List (String × Progress)) : Document :=
  .table (entries.map fun (id, p) => (id, progressDocument p))

/-- The snapshot as a document. -/
def toDocument (s : Snapshot) : Document :=
  .table [
    ("format_version", .int s.version),
    ("name", .text s.identity.name),
    ("pronouns", .text s.identity.pronouns),
    ("power_id", .text s.identity.power),
    ("level", .int s.identity.level),
    ("age", .int s.identity.age),
    ("wealth_weekly", .int s.identity.wealthWeekly),
    ("wealth_remaining", .int s.identity.wealthRemaining),
    ("attributes", progressTable s.attributes),
    ("skills", progressTable s.skills)]

/-- The text of the file that holds the snapshot. -/
def fileText (s : Snapshot) : String := Json.pretty s.toDocument

/-- A text of the snapshot holds a half of a character. -/
def hasHalf (s : Snapshot) : Bool :=
  [s.identity.name, s.identity.pronouns, s.identity.power].any Text.hasHalf

/-- A number of the snapshot has more digits than may be written. -/
def hasLongNumber (s : Snapshot) : Bool :=
  [s.version, s.identity.level, s.identity.age, s.identity.wealthWeekly,
      s.identity.wealthRemaining].any (fun n => !Decimal.fits n) ||
    (s.attributes ++ s.skills).any fun (_, p) => !Decimal.fits p.level || !Decimal.fits p.points

/-- A field that has one name only. -/
def field {α : Type} (e : Entries) (name : String) (shape : Shape α) (default : α) : Checked α :=
  e.optional name name shape default

def readProgress : Shape Progress :=
  Shape.model fun e =>
    .apply (.map Progress.mk (field e "upgrade_level" Shape.count 0))
      (field e "upgrade_points" Shape.count 0)

def readProgressTable : Shape (List (String × Progress)) := Shape.mappingOf fun _ => readProgress

/-- The fields of a snapshot without its version and its progress. -/
def readIdentity (e : Entries) : Checked Identity :=
  let blank := Identity.blank
  .apply
    (.apply
      (.apply
        (.apply
          (.apply
            (.apply
              (.map Identity.mk (field e "name" Shape.text blank.name))
              (field e "pronouns" Shape.text blank.pronouns))
            (field e "power_id" Shape.text blank.power))
          (field e "level" Shape.int blank.level))
        (field e "age" Shape.int blank.age))
      (field e "wealth_weekly" Shape.int blank.wealthWeekly))
    (field e "wealth_remaining" Shape.int blank.wealthRemaining)

/-- A snapshot from a document. -/
def read : Shape Snapshot :=
  Shape.model fun e =>
    .apply
      (.apply
        (.apply
          (.map Snapshot.mk (field e "format_version" Shape.int currentVersion))
          (readIdentity e))
        (field e "attributes" readProgressTable []))
      (field e "skills" readProgressTable [])

end Snapshot

end Tabletop
