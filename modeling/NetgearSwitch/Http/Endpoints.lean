import NetgearSwitch.Registry

/-!
# Web endpoints

`protocols/http/endpoints.py`: how a session of a model's web interface is opened, which family
of pages it is written in, and the paths its pages live at.  The fields of a spec that no
modelled function reads are left out.
-/

namespace NetgearSwitch.Http

/-- Which family of HTML a model's pages are written in. -/
inductive HtmlDialect
  | standard
  | gs110emx
  | gs105pe
  | m4300
  | xeFastpath
  | s3300
  | goaheadXml
  deriving DecidableEq, Repr

/-- How a session is opened. -/
inductive LoginScheme
  | mergeHashCgi
  | gambit
  | cheetahForm
  | cheetahV1
  | xmlApi
  deriving DecidableEq, Repr

/-- Do this dialect's pages carry an `<input name="hash">` token? -/
def dialectHasCsrfHash (d : HtmlDialect) : Bool := d = .standard ∨ d = .gs105pe

/-- Which fields of a management-IP page carry what, and the two values of the method. -/
structure XuiMgmtIpFields where
  address : Text
  netmask : Text
  gateway : Text
  mode : Text
  staticValue : Text
  dhcpValue : Text

/-- `_GSM72XX_MGMT_IP_FIELDS`. -/
def gsm72xxMgmtIpFields : XuiMgmtIpFields where
  address := "v_1_1_1".toList
  netmask := "v_1_2_1".toList
  gateway := "v_1_3_1".toList
  mode := "v_1_18_1".toList
  staticValue := "None".toList
  dhcpValue := "DHCP".toList

/-- `_M4300_MGMT_IP_FIELDS`. -/
def m4300MgmtIpFields : XuiMgmtIpFields where
  address := "v_1_6_1".toList
  netmask := "v_1_7_1".toList
  gateway := "v_1_71_1".toList
  mode := "v_1_5_3".toList
  staticValue := "Disable".toList
  dhcpValue := "Enable".toList

structure HttpModelSpec where
  modelKey : ModelKey
  scheme : LoginScheme
  loginPath : Text
  passwordField : Text
  cookieName : Text
  needsRand : Bool
  vlanConfigPath : Option Text
  vlanMembershipPath : Option Text
  pvidPath : Option Text
  htmlDialect : HtmlDialect := .standard
  dashboardPath : Option Text := none
  /-- The POST target of the membership form, where it differs from the page. -/
  vlanMembershipPostPath : Option Text := none
  xmlWritePath : Option Text := none
  portConfigPath : Option Text := none
  poeConfigPath : Option Text := none
  poeStatusPath : Option Text := none
  mgmtIpPath : Option Text := none
  mgmtIpFields : Option XuiMgmtIpFields := none
  syslogPath : Option Text := none
  /-- The name the session token is carried under, where the session is no cookie. -/
  sessionTokenField : Option Text := none
  /-- The POST target of the login, where it differs from the page. -/
  loginPostPath : Option Text := none
  usernameField : Option Text := none
  username : Text := "admin".toList
  needsReferer : Bool := false

/-- `_FASTPATH_VLAN_MEMBERSHIP`. -/
def fastpathVlanMembership : Text := "/switching/dot1q/vlan_port_cfg.html".toList

/-- `_FASTPATH_VLAN_MEMBERSHIP_RW`. -/
def fastpathVlanMembershipRw : Text := "/switching/dot1q/vlan_port_cfg_rw.html".toList

/-- `_M4300_VLAN_MEMBERSHIP`. -/
def m4300VlanMembership : Text := "/v1".toList ++ fastpathVlanMembership

/-- `_M4300_VLAN_MEMBERSHIP_RW`. -/
def m4300VlanMembershipRw : Text := "/v1".toList ++ fastpathVlanMembershipRw

/-- `_FASTPATH_PORT_CONFIG`. -/
def fastpathPortConfig : Text := "/portsConfiguration.html".toList

/-- `_FASTPATH_POE_CONFIG`. -/
def fastpathPoeConfig : Text := "/poeInterfaceConfiguration.html".toList

/-- `_FASTPATH_SYSLOG`. -/
def fastpathSyslog : Text := "/syslogConfiguration.html".toList

/-- The M4300 entry; the 16X has a PoE page besides. -/
def m4300Spec (key : ModelKey) : HttpModelSpec :=
  { modelKey := key
    scheme := .cheetahV1
    loginPath := "/".toList
    loginPostPath := some "/v1/base/cheetah_login.html".toList
    passwordField := "pwd".toList
    usernameField := some "uname".toList
    cookieName := if key = .m4300_16x then "SIDSSL".toList else "SID".toList
    needsRand := false
    needsReferer := true
    dashboardPath := some "/v1/portsConfiguration.html".toList
    vlanConfigPath := some "/v1/vlanStatus.html".toList
    vlanMembershipPath := some m4300VlanMembership
    vlanMembershipPostPath := some m4300VlanMembershipRw
    pvidPath := some "/v1/portPvidConfiguration.html".toList
    portConfigPath := some ("/v1".toList ++ fastpathPortConfig)
    poeConfigPath := if key = .m4300_16x then some ("/v1".toList ++ fastpathPoeConfig) else none
    poeStatusPath := if key = .m4300_16x then some ("/v1".toList ++ fastpathPoeConfig) else none
    mgmtIpPath := some "/v1/mgmtVlanIpv4Configuration.html".toList
    mgmtIpFields := some m4300MgmtIpFields
    syslogPath := some ("/v1".toList ++ fastpathSyslog)
    htmlDialect := .m4300 }

/-- `http_spec`, `none` for a model without an HTTP backend. -/
def httpSpec : ModelKey → Option HttpModelSpec
  | .gs305ep => some
    { modelKey := .gs305ep
      scheme := .mergeHashCgi
      loginPath := "/login.cgi".toList
      passwordField := "password".toList
      cookieName := "SID".toList
      needsRand := true
      dashboardPath := some "/dashboard.cgi".toList
      vlanConfigPath := some "/8021qCf.cgi".toList
      vlanMembershipPath := some "/8021qMembe.cgi".toList
      pvidPath := some "/portPVID.cgi".toList
      poeConfigPath := some "/PoEPortConfig.cgi".toList
      poeStatusPath := some "/getPoePortStatus.cgi".toList }
  | .gs110emx => some
    { modelKey := .gs110emx
      scheme := .gambit
      loginPath := "/".toList
      loginPostPath := some "/redirect.html".toList
      passwordField := "LoginPassword".toList
      cookieName := []
      needsRand := true
      sessionTokenField := some "Gambit".toList
      dashboardPath := some "/iss/specific/port_settings.html".toList
      vlanConfigPath := some "/iss/specific/Cf8021q.html".toList
      vlanMembershipPath := some "/iss/specific/vlanMembership.html".toList
      pvidPath := some "/iss/specific/vlan_pvidsetting.html".toList
      portConfigPath := some "/iss/specific/port_settings.html".toList
      htmlDialect := .gs110emx }
  | .gsm7228ps => some
    { modelKey := .gsm7228ps
      scheme := .cheetahForm
      loginPath := "/base/cheetah_login.html".toList
      passwordField := "pwd".toList
      usernameField := some "uname".toList
      cookieName := "SID".toList
      needsRand := false
      dashboardPath := some "/portsConfiguration.html".toList
      vlanConfigPath := some "/vlanStatus.html".toList
      vlanMembershipPath := some fastpathVlanMembership
      vlanMembershipPostPath := some fastpathVlanMembershipRw
      pvidPath := some "/portPvidConfiguration.html".toList
      portConfigPath := some fastpathPortConfig
      poeConfigPath := some fastpathPoeConfig
      poeStatusPath := some fastpathPoeConfig
      mgmtIpPath := some "/ipConfiguration.html".toList
      mgmtIpFields := some gsm72xxMgmtIpFields
      syslogPath := some fastpathSyslog
      htmlDialect := .s3300 }
  | .gs105pe => some
    { modelKey := .gs105pe
      scheme := .mergeHashCgi
      loginPath := "/login.cgi".toList
      passwordField := "password".toList
      cookieName := "SID".toList
      needsRand := true
      dashboardPath := some "/status.cgi".toList
      vlanConfigPath := some "/8021qCf.cgi".toList
      vlanMembershipPath := some "/8021qMembe.cgi".toList
      pvidPath := some "/portPVID.cgi".toList
      htmlDialect := .gs105pe }
  | .m4300_24x => some (m4300Spec .m4300_24x)
  | .m4300_16x => some (m4300Spec .m4300_16x)
  | .gsm7252ps => some
    { modelKey := .gsm7252ps
      scheme := .cheetahForm
      loginPath := "/base/cheetah_login.html".toList
      passwordField := "pwd".toList
      usernameField := some "uname".toList
      cookieName := "SID".toList
      needsRand := false
      dashboardPath := some "/portsConfiguration.html".toList
      vlanConfigPath := some "/vlanStatus.html".toList
      vlanMembershipPath := some fastpathVlanMembership
      vlanMembershipPostPath := some fastpathVlanMembershipRw
      pvidPath := some "/portPvidConfiguration.html".toList
      portConfigPath := some fastpathPortConfig
      poeConfigPath := some fastpathPoeConfig
      poeStatusPath := some fastpathPoeConfig
      mgmtIpPath := some "/ipConfiguration.html".toList
      mgmtIpFields := some gsm72xxMgmtIpFields
      syslogPath := some fastpathSyslog
      htmlDialect := .xeFastpath }
  | .gs728tpp => some
    { modelKey := .gs728tpp
      scheme := .xmlApi
      loginPath := "/".toList
      passwordField := "password".toList
      usernameField := some "user".toList
      cookieName := "sessionID".toList
      needsRand := false
      dashboardPath := some
        ("wcd?\x7bfile=/Switching/Ports/portConfiguration_master_jq.htm\x7d".toList ++
          "\x7bStandard802_3List\x7d".toList)
      vlanConfigPath := some
        "wcd?\x7bfile=/Switching/VLAN/VlanConfBasic_master.xml\x7d\x7bVLANList\x7d".toList
      vlanMembershipPath := none
      pvidPath := some
        ("wcd?\x7bfile=/Switching/VLAN/PortPvidConf_master_745.xml\x7d".toList ++
          "\x7bVLANInterfaceList\x7d".toList)
      poeStatusPath := some
        ("wcd?\x7bfile=/System/PoE/PoeInterfaceConf_master.xml\x7d".toList ++
          "\x7bPoEPSEInterfaceList\x7d".toList)
      xmlWritePath := some "wcd".toList
      htmlDialect := .goaheadXml }
  | .m7300 | .xs748t => none

theorem isSome_httpSpec_gs728tpp : (httpSpec .gs728tpp).isSome = true := rfl

/-- `_is_fastpath_dialect`. -/
def HttpModelSpec.isFastpathDialect (spec : HttpModelSpec) : Bool :=
  spec.htmlDialect = .m4300 ∨ spec.htmlDialect = .xeFastpath ∨ spec.htmlDialect = .s3300

/-- `_is_xml_api_dialect`. -/
def HttpModelSpec.isXmlApiDialect (spec : HttpModelSpec) : Bool := spec.htmlDialect = .goaheadXml

end NetgearSwitch.Http
