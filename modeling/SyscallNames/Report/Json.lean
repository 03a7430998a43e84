import SyscallNames.Json.Layout
import SyscallNames.Json.Record
import SyscallNames.Report

set_option autoImplicit false

namespace SyscallNames

namespace Declaration

def nameKey : Text := "name".toList
def lineKey : Text := "line".toList
def offsetKey : Text := "offset".toList

def toJsonAt (layout : Json.Layout) (depth : Nat) (d : Declaration) : Text :=
  layout.object depth [(nameKey, Json.quote d.name), (lineKey, Decimal.digits d.line),
    (offsetKey, Decimal.digits d.offset)]

def toJson (layout : Json.Layout) (d : Declaration) : Text := d.toJsonAt layout 0

def record : Json.Record Text Nat Nat where
  firstKey := nameKey
  first := Json.readText
  secondKey := lineKey
  second := Json.readWord
  thirdKey := offsetKey
  third := Json.readWord

def readJson : Json.Reader Declaration := fun text =>
  (record.read text).map fun ((name, line, offset), rest) => ({ name, line, offset }, rest)

def ofJson (text : Text) : Except Json.Fault Declaration := Json.readDocument readJson text

end Declaration

namespace Report

def sourceKey : Text := "source".toList
def countKey : Text := "count".toList
def declarationsKey : Text := "syscalls".toList

def toJson (layout : Json.Layout) (r : Report) : Text :=
  layout.object 0 [(sourceKey, Json.quote r.source), (countKey, Decimal.digits r.count),
    (declarationsKey, layout.array 1 (r.declarations.map (Declaration.toJsonAt layout 2)))]

def record : Json.Record Text Nat (List Declaration) where
  firstKey := sourceKey
  first := Json.readText
  secondKey := countKey
  second := Json.readWord
  thirdKey := declarationsKey
  third := Json.readList Declaration.readJson

def readJson : Json.Reader Report := fun text =>
  (record.read text).map fun ((source, count, declarations), rest) =>
    ({ source, count, declarations }, rest)

/-- The count that a report states is taken as it stands. -/
def ofJson (text : Text) : Except Json.Fault Report := Json.readDocument readJson text

end Report
end SyscallNames
