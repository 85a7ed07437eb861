/-!
Line ends. A text may end its lines by a newline, a carriage return or both;
in memory every line ends in a newline.
-/

namespace SecretStore.Text

def normalLines : List Char → List Char
  | [] => []
  | '\r' :: '\n' :: rest => '\n' :: normalLines rest
  | c :: rest => (if c == '\r' then '\n' else c) :: normalLines rest

end SecretStore.Text
