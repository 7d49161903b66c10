set_option autoImplicit false

namespace PackageAssay

/-- Access, modify and change time of a file in nanoseconds; all zero if there is no file. -/
structure FileTimes where
  accessed : Int64 := 0
  modified : Int64 := 0
  changed : Int64 := 0
deriving DecidableEq, Repr

def saturated (value : Int) : Int64 :=
  if value < Int64.minValue.toInt then Int64.minValue
  else if Int64.maxValue.toInt < value then Int64.maxValue
  else Int64.ofInt value

theorem toInt_saturated {value : Int} (least : Int64.minValue.toInt ≤ value)
    (greatest : value ≤ Int64.maxValue.toInt) : (saturated value).toInt = value := by
  rw [saturated, if_neg (Int.not_lt.2 least), if_neg (Int.not_lt.2 greatest)]
  exact Int64.toInt_ofInt_of_le least (Int.lt_of_le_of_lt greatest (by decide))

namespace FileTimes

/-- A moment too far from the epoch is told as the last one that can be told. -/
def nanoseconds (seconds fraction : Int) : Int64 :=
  saturated ((saturated (seconds * 1000000000)).toInt + fraction)

theorem toInt_nanoseconds {seconds fraction : Int} (positive : 0 ≤ fraction)
    (least : Int64.minValue.toInt ≤ seconds * 1000000000)
    (greatest : seconds * 1000000000 + fraction ≤ Int64.maxValue.toInt) :
    (nanoseconds seconds fraction).toInt = seconds * 1000000000 + fraction := by
  have whole : (saturated (seconds * 1000000000)).toInt = seconds * 1000000000 :=
    toInt_saturated least (by omega)
  rw [nanoseconds, whole]
  exact toInt_saturated (by omega) greatest

example : nanoseconds (-9223372037) 5 = Int64.minValue + 5 := by decide

def isZero (times : FileTimes) : Bool := times == {}

/-- The times that move when the content is written; reading moves the access time alone. -/
def content (times : FileTimes) : Int64 × Int64 := (times.modified, times.changed)

def madeAt (now : Int64) : FileTimes := ⟨now, now, now⟩

def changedAt (now : Int64) (times : FileTimes) : FileTimes :=
  { times with modified := now, changed := now }

end FileTimes

end PackageAssay
