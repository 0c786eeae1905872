import CandyCloud.Text

/-! # JSON texts

The compact form of `serde_json`: no blanks, members in the order they are given and control
characters escaped.
-/

namespace CandyCloud

def jsonEscape (byte : UInt8) : Bytes :=
  if byte = 34 then utf8 "\\\""
  else if byte = 92 then utf8 "\\\\"
  else if byte = 8 then utf8 "\\b"
  else if byte = 9 then utf8 "\\t"
  else if byte = 10 then utf8 "\\n"
  else if byte = 12 then utf8 "\\f"
  else if byte = 13 then utf8 "\\r"
  else if byte < 32 then utf8 ("\\u" ++ String.ofList (hexDigits 4 byte.toNat))
  else [byte]

def jsonString (text : String) : Bytes := 34 :: (utf8 text).flatMap jsonEscape ++ [34]

def jsonNumber (n : Nat) : Bytes := utf8 (Nat.repr n)

def jsonBool (value : Bool) : Bytes := utf8 (if value then "true" else "false")

def jsonUuid (id : Uuid) : Bytes := jsonString (uuidText id)

def jsonArray (elements : List Bytes) : Bytes := 91 :: [44].intercalate elements ++ [93]

def jsonObject (members : List (String × Bytes)) : Bytes :=
  123 :: [44].intercalate (members.map fun (name, value) => jsonString name ++ 58 :: value) ++ [125]

example : jsonObject [("a", jsonNumber 1), ("b", jsonArray [jsonString "x\n", jsonBool true])] =
    utf8 "\x7b\"a\":1,\"b\":[\"x\\n\",true]\x7d" := by
  decide

end CandyCloud
