import BookTheme.Template.Pass

/-! # Settings

Where the page template lives and how requests for it identify themselves, how often and how patiently
they are made, and what is put into the page. Every setting has a default; the anchors of the page are
no settings.
-/
namespace BookTheme

structure Source where
  apiBase : Text
  owner : Text
  repo : Text
  filePath : Text
  gitRef : Text
  userAgent : Text
deriving DecidableEq

structure Retry where
  maxAttempts : UInt32
  /-- The pause between two attempts, in milliseconds. -/
  delay : UInt64
deriving DecidableEq

structure Settings where
  source : Source
  retry : Retry
  insertions : Template.Insertions
deriving DecidableEq

/-- A length of time in whole seconds and the nanoseconds beyond them. -/
structure Delay where
  seconds : Nat
  nanos : Nat
  nanos_lt : nanos < 1000000000
deriving DecidableEq

namespace Delay

def ofMillis (n : Nat) : Delay := ⟨n / 1000,n % 1000 * 1000000,by omega⟩

def toMillis (d : Delay) : Nat := d.seconds * 1000 + d.nanos / 1000000

@[simp] theorem toMillis_ofMillis (n : Nat) : (ofMillis n).toMillis = n := by
  simp only [ofMillis, toMillis]
  omega

end Delay

structure RequestPolicy where
  maxAttempts : UInt32
  delay : Delay
deriving DecidableEq

def Retry.policy (r : Retry) : RequestPolicy := ⟨r.maxAttempts,.ofMillis r.delay.toNat⟩

/-- The address of the file at its revision. Slashes at the seams are not doubled. -/
def Source.url (s : Source) : Text :=
  (s.apiBase.reverse.dropWhile (· = '/')).reverse ++ "/repos/".toList ++ s.owner ++ ['/'] ++ s.repo ++
    "/contents/".toList ++ s.filePath.dropWhile (· = '/') ++ "?ref=".toList ++ s.gitRef

namespace Default

def source : Source where
  apiBase := "https://api.github.com".toList
  owner := "rust-lang".toList
  repo := "mdBook".toList
  filePath := "src/theme/index.hbs".toList
  gitRef := "v0.4.40".toList
  userAgent := "Update index.hbs for +https://github.com/askama-rs/askama".toList

def retry : Retry := ⟨3,1000⟩

def sidebarStyle : Text := "style=\"display:flex; flex-direction:column\"".toList

def tocStart : Text := "<div style=\"flex:1\">".toList

def tocEnd : Text := "</div>".toList

def block (lines : List String) : Text := lines.flatMap fun line => line.toList ++ ['\n']

/-- Room for an advertisement and the version menu. -/
def scrollboxEnd : Text :=
  block [
    "",
    "<div id=\"ethical-ad-placement\" class=\"ethical-sidebar\" data-ea-publisher=\"readthedocs\" data-ea-type=\"image\"></div>",
    "<readthedocs-flyout></readthedocs-flyout>"]

/-- A script that takes the version menu out of its corner and into the sidebar. -/
def sidebarEnd : Text :=
  block [
    "",
    "<script>",
    "    document.addEventListener(\"DOMContentLoaded\", function insertStyle () \x7b",
    "        const elem = customElements.get(\"readthedocs-flyout\");",
    "        if (elem) \x7b",
    "            elem.styles.insertRule(`",
    "                .container \x7b",
    "                    position: unset !important;",
    "                    max-width: unset !important;",
    "                    width: unset !important;",
    "                    height: unset !important;",
    "                    max-height: unset !important;",
    "                \x7d",
    "            `);",
    "            elem.styles.insertRule(`",
    "                dl:has(#flyout-search-form) \x7b",
    "                    display: none !important;",
    "                \x7d",
    "            `);",
    "        \x7d else \x7b",
    "            setTimeout(insertStyle, 50);",
    "        \x7d",
    "    \x7d);",
    "</script>"]

def insertions : Template.Insertions :=
  { sidebarStyle, scrollboxEnd, tocStart, tocEnd, sidebarEnd }

def settings : Settings := { source, retry, insertions }

end Default
end BookTheme
