import TicketRouting.Unicode.Property
/-!
What version 17.0 of the standard added to version 16.0; it took nothing away. Patterns know the
characters of version 16.0. Where texts themselves are looked at, in the names of groups and in
messages that quote a text, it is version 17.0 that counts, as in the tables of `Text.CaseTable`.
The lists are written as in `Unicode.CategoryTable`.
-/
namespace TicketRouting.Unicode

def addedCharacters : String :=
  "88f c5c cdc 1acf-1add 1ae0-1aeb 20c1 2b96 a7ce-a7cf a7d2 a7d4 a7f1 fbc3-fbd2 fd90-fd91
  fdc8-fdce 10940-10959 10ec5-10ec7 10ed0-10ed8 10efa-10efb 11b60-11b67 11db0-11ddb 11de0-11de9
  16ea0-16eb8 16ebb-16ed3 16ff2-16ff6 187f8-187ff 18d09-18d1e 18d80-18df2 1ccfa-1ccfc 1ceba-1ced0
  1cee0-1cef0 1e6c0-1e6de 1e6e0-1e6f5 1e6fe-1e6ff 1f6d8 1f777-1f77a 1f8d0-1f8d8 1fa54-1fa57 1fa8a
  1fa8e 1fac8 1facd 1faea 1faef 1fbfa 2b73a-2b73f 2cea2-2cead 323b0-33479"

def addedAlphabetic : String :=
  "88f c5c cdc a7ce-a7cf a7d2 a7d4 a7f1 10940-10959 10ec5-10ec7 10efa-10efb 11b60-11b67
  11db0-11ddb 16ea0-16eb8 16ebb-16ed3 16ff2-16ff6 187f8-187ff 18d09-18d1e 18d80-18df2 1e6c0-1e6de
  1e6e0-1e6f5 1e6fe-1e6ff 2b73a-2b73f 2cea2-2cead 323b0-33479"

def addedNumbers : String :=
  "11de0-11de9 16ff4-16ff6"

def addedGraphemeExtend : String :=
  "1acf-1add 1ae0-1aeb 10efa-10efb 11b60 11b62-11b64 11b66 1e6e3 1e6e6 1e6ee-1e6ef 1e6f5"

namespace Current

def assigned : CodeSet := Unicode.assigned.union (CodeSet.ofText addedCharacters)

def alphabetic : CodeSet := Unicode.alphabetic.union (CodeSet.ofText addedAlphabetic)

def numbers : CodeSet :=
  (categories ["Nd", "Nl", "No"]).union (CodeSet.ofText addedNumbers)

def graphemeExtend : CodeSet :=
  Unicode.graphemeExtend.union (CodeSet.ofText addedGraphemeExtend)

end Current

end TicketRouting.Unicode

namespace TicketRouting.Text

/-- Characters without a sign of their own: controls, formats, private and unassigned ones, and all
white space but the space. -/
def unseen : Unicode.CodeSet :=
  (Unicode.categories ["Cc", "Cf", "Co", "Zl", "Zp", "Zs"]).union
      Unicode.Current.assigned.complement |>.diff (Unicode.CodeSet.single 0x20)

def shownByNumber : Unicode.CodeSet := unseen.union Unicode.Current.graphemeExtend

def shownChar (c : Char) : List Char :=
  match c with
  | '"' => ['\\', '"']
  | '\\' => ['\\', '\\']
  | '\t' => ['\\', 't']
  | '\n' => ['\\', 'n']
  | '\r' => ['\\', 'r']
  | '\x00' => ['\\', '0']
  | _ =>
    if shownByNumber.containsChar c then
      '\\' :: 'u' :: '{' :: Nat.toDigits 16 c.toNat ++ ['}']
    else [c]

def quoted (text : String) : String :=
  String.ofList ('"' :: text.toList.flatMap shownChar ++ ['"'])

end TicketRouting.Text
