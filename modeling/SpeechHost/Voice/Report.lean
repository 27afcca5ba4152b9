import SpeechHost.Voice.Check
/-!
# Reports of a check

What a check found, as lines to read and as JSON.
-/

namespace SpeechHost.Voice

def jsonChar (c : Char) : List Char :=
  match c with
  | '"' => ['\\', '"']
  | '\\' => ['\\', '\\']
  | '\x08' => ['\\', 'b']
  | '\x0c' => ['\\', 'f']
  | '\n' => ['\\', 'n']
  | '\r' => ['\\', 'r']
  | '\t' => ['\\', 't']
  | c =>
    if c.toNat < 0x20 then
      ['\\', 'u', '0', '0'] ++ (if c.toNat < 0x10 then ['0'] else []) ++ Nat.toDigits 16 c.toNat
    else [c]

def jsonString (s : String) : String :=
  String.ofList ('"' :: (s.toList.flatMap jsonChar ++ ['"']))

/-- A JSON list of strings, one a line, as the value of a member. -/
def jsonList (items : List String) : String :=
  if items.isEmpty then "[]"
  else "[\n" ++ ",\n".intercalate (items.map fun s => "    " ++ jsonString s) ++ "\n  ]"

def Report.toJson (r : Report) : String :=
  let members :=
    [("result", jsonString r.verdict.name),
      ("root_directory", jsonString r.root.toString),
      ("data_files", jsonList (r.files.map (·.1))),
      ("data_files_info", jsonList (r.files.map (·.2))),
      ("available", jsonList r.available),
      ("unavailable", jsonList r.unavailable)]
  "\x7b\n" ++ ",\n".intercalate (members.map fun (name, value) =>
    "  " ++ jsonString name ++ ": " ++ value) ++ "\n\x7d\n"

def Report.toText (r : Report) : String :=
  s!"Voice Data ({r.root})\n" ++ String.ofList (List.replicate 30 '─') ++ "\n" ++
    String.join (r.available.map fun name => s!"  ✓ {name}\n") ++
    String.join (r.unavailable.map fun name => s!"  ✗ {name}\n")

end SpeechHost.Voice
