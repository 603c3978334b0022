import NamedQuery.Endpoint
import NamedQuery.Text.Keyword

/-!
# Queries of endpoints

Behind a question mark an endpoint may hold settings, joined by `&`, each a name and a value with
`=` between them. A connection has no use for them, but it has to be able to read them: the bytes
that percent signs stand for must form a text.

* `Endpoint.queryOf` — the query of a text that is an endpoint;
* `Endpoint.isQueryReadable` — whether the settings of a query can be read; without a query they can
  (`isQueryReadable_nil`).
-/

namespace NamedQuery.Endpoint

/-- What stands behind the first question mark, without the fragment. -/
def queryOf (text : String) : List Char :=
  (((clean text.toList).takeWhile (· != '#')).dropWhile (· != '?')).drop 1

/-- Whether two hexadecimal digits follow every percent sign. -/
def percentsComplete : List Char → Bool
  | [] => true
  | '%' :: a :: b :: text =>
    (Ipv4.digit? a).isSome && (Ipv4.digit? b).isSome && percentsComplete text
  | c :: text => c != '%' && percentsComplete text

/-- Whether the bytes of a text in percent signs form a text themselves. -/
def isReadable (text : List Char) : Bool :=
  percentsComplete text && (String.fromUTF8? (percentDecode text).toByteArray).isSome

/-- Whether the settings of a query can be read. What follows a second `=` belongs to neither name
nor value. -/
def isQueryReadable (query : List Char) : Bool :=
  (Text.pieces '&' query).all fun setting => ((Text.pieces '=' setting).take 2).all isReadable

/-- There is nothing to read where there is no query. -/
@[simp] theorem isQueryReadable_nil : isQueryReadable [] = true := by decide +kernel

end NamedQuery.Endpoint
