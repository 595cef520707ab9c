import CodeInventory.Report.Json
import CodeInventory.Settings.Basic

namespace CodeInventory.Report

open CodeInventory.Source

def render (format : Format) (header : Header) (sources : Inventory SymbolSet)
    (benches : Inventory NameSet) (tests : Inventory (List String)) : String :=
  match format with
  | .markdown => Markdown.render header sources benches tests
  | .json => renderJson header sources benches tests

end CodeInventory.Report
