/-!
# Entities

The characters that markup cannot hold as they are, and the entities that stand for them. Escaping
replaces one character after the other, in the order of the table: the ampersand is replaced first,
so that the ampersands of the entities put in later are left alone.
-/

namespace MarkupTree.Markup

/-- The escaped characters with their entities, in the order in which they are replaced. -/
def entities : List (Char × String) :=
  [('&', "&amp;"), ('<', "&lt;"), ('>', "&gt;"), ('"', "&quot;"), ('\'', "&apos;")]

/-- Puts a text in the place of every occurrence of a character. -/
def replaceChar (c : Char) (replacement : List Char) (cs : List Char) : List Char :=
  cs.flatMap fun d => if d = c then replacement else [d]

/-- Replaces the characters of the table one after the other. -/
def escapeChars (cs : List Char) : List Char :=
  entities.foldl (fun cs (c, entity) => replaceChar c entity.toList cs) cs

/-- Text as it is written in markup, between tags and in attribute values. -/
def escape (s : String) : String :=
  String.ofList (escapeChars s.toList)

@[simp] theorem replaceChar_nil (c : Char) (replacement : List Char) :
    replaceChar c replacement [] = [] := rfl

@[simp] theorem replaceChar_cons (c d : Char) (replacement cs : List Char) :
    replaceChar c replacement (d :: cs) =
      (if d = c then replacement else [d]) ++ replaceChar c replacement cs := rfl

@[simp] theorem replaceChar_append (c : Char) (replacement as bs : List Char) :
    replaceChar c replacement (as ++ bs) =
      replaceChar c replacement as ++ replaceChar c replacement bs :=
  List.flatMap_append

@[simp] theorem escapeChars_nil : escapeChars [] = [] := rfl

@[simp] theorem escape_empty : escape "" = "" := rfl

@[simp] theorem toList_escape (s : String) : (escape s).toList = escapeChars s.toList := by
  simp [escape]

end MarkupTree.Markup
