import RouteView.Files.Tree
import RouteView.Settings.Basic

/-!
# The views of the guestbook

The guestbook brings its own views: a layout, and one view for each page but the fixed one.  They stand
in a tree apart from the one in which the program works, in the directory that the default settings name.
-/
set_option autoImplicit false
namespace RouteView.Guestbook

def viewDirectory : Text := "guestbook/views"

/-- Lines, each with its end. -/
def lines (texts : List String) : Text := texts.flatMap fun line => line.toList ++ ['\n']

def layoutView : Text := lines
  ["<!DOCTYPE html>", "<html>",
    "<head><title>\x7b\x7b title|default:\"Guestbook\" \x7d\x7d</title></head>", "<body>",
    "<nav><a href=\"\x7b\x7b home_url \x7d\x7d\">Home</a> | <a href=\"\x7b\x7b archive_url \x7d\x7d\">Archive</a></nav>",
    "\x7b\x7b content \x7d\x7d", "<footer>\x7b\x7b site \x7d\x7d</footer>", "</body>", "</html>"]

def homeView : Text := lines
  ["\x7b# The landing page lists the latest entry only. #\x7d", "<h1>\x7b\x7b site \x7d\x7d</h1>",
    "<p>Latest: <a href=\"\x7b\x7b latest_url \x7d\x7d\">\x7b\x7b latest.author \x7d\x7d</a> wrote \"\x7b\x7b latest.message \x7d\x7d\"</p>"]

def entryView : Text := lines
  ["<article>", "  <h2>Entry \x7b\x7b entry.id \x7d\x7d by \x7b\x7b entry.author|default:\"anonymous\" \x7d\x7d</h2>",
    "  <p>\x7b\x7b entry.message \x7d\x7d</p>",
    "  <small>\x7b\x7b entry.year \x7d\x7d-\x7b\x7b entry.month \x7d\x7d</small>", "</article>"]

def archiveView : Text := lines
  ["<h1>Archive \x7b\x7b year|default:\"(all years)\" \x7d\x7d \x7b\x7b month \x7d\x7d</h1>",
    "<p>\x7b\x7b count \x7d\x7d entries</p>"]

/-- The view files by their names in the view directory. -/
def viewFiles : List (List Text × Text) :=
  [(["archive.html"], archiveView), (["entries", "show.html"], entryView), (["home.html"], homeView),
    (["layout.html"], layoutView)]

/-- The tree that holds the views and nothing else, looked at from its root. -/
def viewTree : FileTree :=
  ⟨viewFiles.map fun (place, source) =>
    (Text.splitOn '/' viewDirectory ++ place, .file (some source)), []⟩

def defaultSettings : Settings :=
  { Settings.default with viewDirs := [viewDirectory], layout := some "layout" }

end RouteView.Guestbook
