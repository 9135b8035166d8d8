/-!
# Content types

The types of content that are known by a file extension.
-/

namespace Signpost

/-- A type of content. -/
inductive ContentType
  | css | gif | html | icon | javascript | jpeg | json | octetStream | png | svg | text
deriving DecidableEq, Repr

namespace ContentType

/-- The name of the type as it stands in a header field. -/
def mediaType : ContentType → String
  | css         => "text/css"
  | gif         => "image/gif"
  | html        => "text/html"
  | icon        => "image/x-icon"
  | javascript  => "application/javascript"
  | jpeg        => "image/jpeg"
  | json        => "application/json"
  | octetStream => "application/octet-stream"
  | png         => "image/png"
  | svg         => "image/svg+xml"
  | text        => "text/plain"

/-- The type of files with the given extension, whose ASCII letters may have either case. Files with
any other extension are bytes of no known kind. -/
def ofExtension (extension : String) : ContentType :=
  match String.ofList (extension.toList.map Char.toLower) with
  | "css"                       => css
  | "gif"                       => gif
  | "htm" | "html"              => html
  | "ico"                       => icon
  | "js" | "mjs"                => javascript
  | "jpg" | "jpeg"              => jpeg
  | "json" | "map"              => json
  | "png"                       => png
  | "svg"                       => svg
  | "txt" | "md" | "markdown"   => text
  | _                           => octetStream

end ContentType

end Signpost
