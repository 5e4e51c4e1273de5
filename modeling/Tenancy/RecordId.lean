/-! Identifiers of stored records: fifteen ASCII letters and digits in four segments of fixed
width. -/
namespace Tenancy

def RecordId.isWellFormed (text : String) : Bool :=
  text.toList.length = 15 && text.toList.all Char.isAlphanum

structure RecordId where
  text : String
  wellFormed : RecordId.isWellFormed text = true
deriving DecidableEq

namespace RecordId

def ofString? (text : String) : Option RecordId :=
  if h : isWellFormed text = true then some ⟨text, h⟩ else none

inductive Segment where
  | objectPrefix
  | apiVersion
  | organization
  | uniqueSuffix
deriving DecidableEq

namespace Segment

def all : List Segment := [.objectPrefix, .apiVersion, .organization, .uniqueSuffix]

def width : Segment → Nat
  | .objectPrefix => 2
  | .apiVersion => 1
  | .organization => 4
  | .uniqueSuffix => 8

def start : Segment → Nat
  | .objectPrefix => 0
  | .apiVersion => 2
  | .organization => 3
  | .uniqueSuffix => 7

end Segment

def segment (id : RecordId) (s : Segment) : String :=
  String.ofList ((id.text.toList.drop s.start).take s.width)

instance : Ord RecordId := ⟨fun a b => compare a.text b.text⟩

theorem ofString?_text (id : RecordId) : ofString? id.text = some id := by
  simp [ofString?, id.wellFormed]

theorem ofString?_eq_some_iff {text : String} {id : RecordId} :
    ofString? text = some id ↔ id.text = text := by
  constructor
  · intro read
    unfold ofString? at read
    split at read
    · cases read; rfl
    · cases read
  · rintro rfl
    exact ofString?_text id

end RecordId
end Tenancy
