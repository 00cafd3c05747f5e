import DependencyEvidence.Hints.Document

/-!
# Built-in rules

The document of rules that every run starts from, under the name by which settings can refer to it.
-/

namespace DependencyEvidence

/-- The name of the built-in document. -/
def builtinName : String := "base-hints.xml"

/-- The built-in document. -/
def builtinRules : String := r#"<?xml version="1.0" encoding="UTF-8"?>
<!--
  Built-in hint rules (schema version 1).

  <hint> fires when ANY <given> evidence is present or ANY <fileName>
  matches; every <add> and <remove> entry is then applied.
  <fileName contains="..." regex="true|false" caseSensitive="true|false"/>
  matches the whole file name.
  <vendorDuplicatingHint> adds `duplicate` as extra vendor evidence whenever a
  vendor value equals `value`, ignoring case.
-->
<hints version="1">
    <hint>
        <given>
            <evidence type="product" source="Manifest" name="Implementation-Title" value="Spring Framework"/>
            <evidence type="product" source="Manifest" name="Bundle-Name" value="Spring Framework"/>
        </given>
        <add>
            <evidence type="product" source="hint analyzer" name="product" value="springsource_spring_framework" confidence="HIGH"/>
            <evidence type="vendor" source="hint analyzer" name="vendor" value="SpringSource" confidence="HIGH"/>
            <evidence type="vendor" source="hint analyzer" name="vendor" value="vmware" confidence="HIGH"/>
            <evidence type="vendor" source="hint analyzer" name="vendor" value="pivotal" confidence="HIGH"/>
        </add>
    </hint>
    <hint>
        <given>
            <evidence type="vendor" source="Manifest" name="Implementation-Vendor" value="Sun Microsystems, Inc."/>
        </given>
        <add>
            <evidence type="vendor" source="hint analyzer" name="vendor" value="oracle" confidence="HIGHEST"/>
        </add>
    </hint>
    <hint>
        <given>
            <fileName contains="(jersey|jsr311)-.*\.jar" regex="true"/>
        </given>
        <add>
            <evidence type="vendor" source="hint analyzer" name="vendor" value="oracle" confidence="HIGH"/>
        </add>
    </hint>
    <hint>
        <given>
            <evidence type="product" source="gemspec" name="name" value="rails"/>
        </given>
        <add>
            <evidence type="vendor" source="hint analyzer" name="vendor" value="rubyonrails" confidence="HIGHEST"/>
            <evidence type="product" source="hint analyzer" name="product" value="ruby_on_rails" confidence="HIGHEST"/>
        </add>
    </hint>
    <hint>
        <given>
            <evidence type="product" source="Package.swift" name="name" value="Alamofire"/>
            <evidence type="product" source="podspec" name="name" value="Alamofire"/>
        </given>
        <add>
            <evidence type="vendor" source="hint analyzer" name="vendor" value="alamofire" confidence="HIGHEST"/>
        </add>
    </hint>
    <hint>
        <given>
            <evidence type="vendor" source="pom" name="groupid" value="org.mortbay.jetty"/>
            <evidence type="vendor" source="pom" name="groupid" value="org.eclipse.jetty"/>
        </given>
        <add>
            <evidence type="vendor" source="hint analyzer" name="vendor" value="eclipse" confidence="HIGHEST"/>
            <evidence type="product" source="hint analyzer" name="product" value="jetty" confidence="HIGHEST"/>
        </add>
        <remove>
            <evidence type="vendor" source="pom" name="groupid" value="org.mortbay.jetty"/>
        </remove>
    </hint>
    <vendorDuplicatingHint value="sun" duplicate="oracle"/>
    <vendorDuplicatingHint value="oracle corporation" duplicate="oracle"/>
    <vendorDuplicatingHint value="apache software foundation" duplicate="apache"/>
    <vendorDuplicatingHint value="the apache software foundation" duplicate="apache"/>
    <vendorDuplicatingHint value="pivotal software, inc." duplicate="pivotal"/>
</hints>
"#

/-- The built-in document with this name; leading slashes do not count. -/
def builtin? (name : String) : Option String :=
  if String.ofList (name.toList.dropWhile (· == '/')) = builtinName then some builtinRules else none

end DependencyEvidence
